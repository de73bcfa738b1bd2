/-
  Activating and then deactivating a Remediation
  on a reconcile-managed zone.

  Seen at a time no earlier than the clean-ups, a stack is the set of its live entries, and
  a push or a removal acts on that set by the id it names (`views_apply`).

  Whether a REFRESH push refreshes or appends depends on whether an expired entry has been
  cleaned up yet, so the pushes of one id have to agree with each other, and those with
  REFRESH with the entry of that id unless it outlives the run (`AgreesWith`).
-/
import IotController.Conditioner.FaultIsolation
import IotController.Conditioner.StackRuns

namespace IotController.Conditioner

open Foundation Api Proto Compute

/-! ## Stacks as sets -/

/-- An entry without its Computer. -/
structure EntryView where
  id : String
  computerName : String
  args : Args
  priority : Int
  pushedAt : Option Time
  ttl : Option Duration

def RuntimeActivation.view (ra : RuntimeActivation) : EntryView :=
  { id := ra.id, computerName := ra.computerName, args := ra.args, priority := ra.priority,
    pushedAt := ra.pushedAt, ttl := ra.ttl }

def SameContent (a b : Activation) : Prop :=
  a.computerName = b.computerName ∧ a.args = b.args ∧ a.priority = b.priority

def without (id : String) (entries : Set EntryView) : Set EntryView :=
  {v ∈ entries | v.id ≠ id}

def AxisStack.views (u : Time) (stack : AxisStack) : Set EntryView :=
  {v | ∃ ra ∈ stack.live u, ra.view = v}

/-- The effect with the entry that the push leaves in `stack`. -/
def StackEffect.met (stack : AxisStack) : StackEffect → StackEffect
  | push ra => push (stack.pushedEntry ra)
  | eff => eff

def StackEffect.onViews (u : Time) : StackEffect → Set EntryView → Set EntryView
  | keep, entries => entries
  | push ra, entries => without ra.id entries ∪ {v | v = ra.view ∧ ra.expired u = false}
  | remove id, entries => without id entries

variable {a b : RuntimeActivation} {stack : AxisStack} {eff : StackEffect} {zone : String}

theorem expired_eq_of_timing (hpushed : a.pushedAt = b.pushedAt) (httl : a.ttl = b.ttl) (u : Time) :
    a.expired u = b.expired u := by
  simp only [RuntimeActivation.expired, hpushed, httl]

theorem expired_eq_of_view (h : a.view = b.view) (u : Time) : a.expired u = b.expired u :=
  expired_eq_of_timing (congrArg EntryView.pushedAt h) (congrArg EntryView.ttl h) u

theorem rank_eq_of_view (h : a.view = b.view) : a.rank = b.rank := by
  have hpushed : a.pushedAt = b.pushedAt := congrArg EntryView.pushedAt h
  have hpriority : a.priority = b.priority := congrArg EntryView.priority h
  simp only [RuntimeActivation.rank, RuntimeActivation.pushTime, hpushed, hpriority]

theorem AxisStack.refreshed_view (hdistinct : stack.DistinctIds) {e ra : RuntimeActivation}
    (he : e ∈ stack) (hid : e.id = ra.id) :
    (stack.refreshed ra).view = { e.view with pushedAt := ra.pushedAt, ttl := ra.ttl } := by
  simp only [refreshed, (find_eq_some_iff hdistinct).mpr ⟨he, hid⟩, RuntimeActivation.view]

theorem AxisStack.refreshed_view_of_same (hdistinct : stack.DistinctIds) {ra : RuntimeActivation}
    (hsame : ∀ e ∈ stack, e.id = ra.id → SameContent e.toActivation ra.toActivation) :
    (stack.refreshed ra).view = ra.view := by
  unfold refreshed
  split
  · rename_i existing hfind
    obtain ⟨hmem, hid⟩ := (find_eq_some_iff hdistinct).mp hfind
    obtain ⟨hname, hargs, hpriority⟩ := hsame existing hmem hid
    simp only [RuntimeActivation.view, hid, hname, hargs, hpriority]
  · rfl

/-- **Refinement.**  On valid stacks the operations are those on sets. -/
theorem AxisStack.views_apply (hdistinct : stack.DistinctIds) (u : Time) :
    (eff.apply stack).views u = (eff.met stack).onViews u (stack.views u) := by
  ext v
  cases eff with
  | keep => exact Iff.rfl
  | push ra =>
    simp only [StackEffect.apply, StackEffect.met, StackEffect.onViews, views, without,
      mem_live_iff, mem_push hdistinct, (pushedEntry_timing stack ra).1, Set.mem_ofPred_eq,
      Set.mem_union]
    constructor
    · rintro ⟨e, ⟨⟨hmem, hne⟩ | rfl, hexpired⟩, rfl⟩
      · exact Or.inl ⟨⟨e, ⟨hmem, hexpired⟩, rfl⟩, hne⟩
      · exact Or.inr ⟨rfl, hexpired⟩
    · rintro (⟨⟨e, ⟨hmem, hexpired⟩, rfl⟩, hne⟩ | ⟨rfl, hexpired⟩)
      · exact ⟨e, ⟨Or.inl ⟨hmem, hne⟩, hexpired⟩, rfl⟩
      · exact ⟨_, ⟨Or.inr rfl, hexpired⟩, rfl⟩
  | remove id =>
    have hmem : ∀ e, e ∈ stack.removeByID id ↔ e ∈ stack ∧ e.id ≠ id := fun e =>
      mem_eraseP_key_iff hdistinct
    simp only [StackEffect.apply, StackEffect.met, StackEffect.onViews, views, without,
      mem_live_iff, hmem, Set.mem_ofPred_eq]
    constructor
    · rintro ⟨e, ⟨⟨hmem, hne⟩, hexpired⟩, rfl⟩
      exact ⟨⟨e, ⟨hmem, hexpired⟩, rfl⟩, hne⟩
    · rintro ⟨⟨e, ⟨hmem, hexpired⟩, rfl⟩, hne⟩
      exact ⟨e, ⟨⟨hmem, hne⟩, hexpired⟩, rfl⟩

def StackEffect.Only (id : String) : StackEffect → Prop
  | keep => True
  | push ra => ra.id = id
  | remove id' => id' = id

def StackEffect.Spares (id : String) : StackEffect → Prop
  | keep => True
  | push ra => ra.id ≠ id
  | remove id' => id' ≠ id

theorem StackEffect.Spares.met {id : String} (h : eff.Spares id) (stack : AxisStack) :
    (eff.met stack).Spares id := by
  cases eff with
  | keep => trivial
  | push ra => exact (AxisStack.pushedEntry_timing stack ra).1.trans_ne h
  | remove => exact h

theorem StackEffect.onViews_push_eq (h : a.view = b.view) (u : Time) (entries : Set EntryView) :
    (push a).onViews u entries = (push b).onViews u entries := by
  have hid : a.id = b.id := congrArg EntryView.id h
  simp only [onViews, hid, h, expired_eq_of_view h u]

theorem AxisStack.without_views_apply (hdistinct : stack.DistinctIds) {id : String}
    (honly : eff.Only id) (u : Time) :
    without id ((eff.apply stack).views u) = without id (stack.views u) := by
  ext v
  have hmem : ∀ e : RuntimeActivation, e.id ≠ id → (e ∈ eff.apply stack ↔ e ∈ stack) := by
    intro e hne
    cases eff with
    | keep => exact Iff.rfl
    | push ra =>
      have hid : ra.id = id := honly
      rw [StackEffect.apply, mem_push hdistinct]
      constructor
      · rintro (⟨hmem, -⟩ | rfl)
        · exact hmem
        · exact absurd ((pushedEntry_timing stack ra).1.trans hid) hne
      · exact fun hmem => Or.inl ⟨hmem, hid ▸ hne⟩
    | remove id' =>
      have hid : id' = id := honly
      exact (mem_eraseP_key_iff hdistinct).trans (and_iff_left (hid ▸ hne))
  simp only [without, views, mem_live_iff, Set.mem_ofPred_eq]
  constructor
  · rintro ⟨⟨e, ⟨he, hlive⟩, rfl⟩, hne⟩
    exact ⟨⟨e, ⟨(hmem e hne).mp he, hlive⟩, rfl⟩, hne⟩
  · rintro ⟨⟨e, ⟨he, hlive⟩, rfl⟩, hne⟩
    exact ⟨⟨e, ⟨(hmem e hne).mpr he, hlive⟩, rfl⟩, hne⟩

/-- **Commutation.**  Forgetting an id commutes with whatever spares it. -/
theorem StackEffect.without_onViews_of_spares {id : String} (h : eff.Spares id) (u : Time)
    (entries : Set EntryView) :
    without id (eff.onViews u entries) = eff.onViews u (without id entries) := by
  ext v
  cases eff with
  | keep => exact Iff.rfl
  | push ra =>
    have hid : ra.id ≠ id := h
    simp only [onViews, without, Set.mem_union, Set.mem_ofPred_eq]
    constructor
    · rintro ⟨⟨hv, hne'⟩ | ⟨rfl, hlive⟩, hne⟩
      · exact Or.inl ⟨⟨hv, hne⟩, hne'⟩
      · exact Or.inr ⟨rfl, hlive⟩
    · rintro (⟨⟨hv, hne⟩, hne'⟩ | ⟨rfl, hlive⟩)
      · exact ⟨Or.inl ⟨hv, hne'⟩, hne⟩
      · exact ⟨Or.inr ⟨rfl, hlive⟩, hid⟩
  | remove =>
    simp only [onViews, without, Set.mem_ofPred_eq]
    constructor
    · rintro ⟨⟨hv, hne'⟩, hne⟩
      exact ⟨⟨hv, hne⟩, hne'⟩
    · rintro ⟨⟨hv, hne⟩, hne'⟩
      exact ⟨⟨hv, hne'⟩, hne⟩

/-! ## Two runs -/

/-- Pushes and removals of other sources, and reconciles at times up to `u`. -/
def ReconcilerEvent.SparesSource (zone : String) (kind : SourceKind) (name : String) (u : Time) :
    ReconcilerEvent → Prop
  | push z _ (some act) => z = zone → ¬ (act.sourceKind = kind ∧ act.sourceName = name)
  | push _ _ none => True
  | remove z kind' name' => z = zone → ¬ (kind' = kind ∧ name' = name)
  | reconcile _ now => now ≤ u

/-- The entry is alive at `u`, also with the times of any push of its id. -/
def Lasts (ops : List ReconcilerEvent) (zone : String) (axis : AxisKind) (u : Time)
    (ra : RuntimeActivation) : Prop :=
  ra.expired u = false ∧ ∀ act, .push zone axis (some act) ∈ ops →
    ra.id = activationID act.sourceKind act.sourceName →
      { ra with pushedAt := act.pushedAt, ttl := act.ttl }.expired u = false

/-- A push that would refresh an entry carries the entry's content, or the entry stays until
`u`. -/
def AgreesWith (ops : List ReconcilerEvent) (zone : String) (axis : AxisKind) (u : Time)
    (stack : AxisStack) : Prop :=
  ∀ act, .push zone axis (some act) ∈ ops → act.pushPolicy ≠ .replace → ∀ ra ∈ stack,
    ra.id = activationID act.sourceKind act.sourceName →
      SameContent ra.toActivation act ∨ Lasts ops zone axis u ra

/-- The entry of a push agrees with the pushes of its id and has the times of one. -/
def FitsIn (ops : List ReconcilerEvent) (zone : String) (axis : AxisKind)
    (ra : RuntimeActivation) : Prop :=
  ∀ act, .push zone axis (some act) ∈ ops → ra.id = activationID act.sourceKind act.sourceName →
    SameContent ra.toActivation act ∧ ∃ act', .push zone axis (some act') ∈ ops ∧
      ra.id = activationID act'.sourceKind act'.sourceName ∧ ra.pushedAt = act'.pushedAt ∧
        ra.ttl = act'.ttl

/-- Pushes of one source onto an axis of the zone have the same content. -/
def PushesAgree (ops : List ReconcilerEvent) (zone : String) : Prop :=
  ∀ axis act act', .push zone axis (some act) ∈ ops → .push zone axis (some act') ∈ ops →
    act.sourceKind = act'.sourceKind → act.sourceName = act'.sourceName → SameContent act act'

/-- No clock reading so far is later than `u`. -/
def SettledAt (env : Env) (u : Time) (s : World) : Prop := ∀ n < s.tick, env.clock n ≤ u

theorem SettledAt.mono {env : Env} {u : Time} {s t : World} (h : SettledAt env u t)
    (htick : s.tick ≤ t.tick) : SettledAt env u s := fun n hn => h n (lt_of_lt_of_le hn htick)

/-- `t` comes from `s` by the given effects on the stacks of a zone, clean-ups up
to `u` aside. -/
structure Affected (env : Env) (u : Time) (zone : String) (effs : AxisKind → StackEffect)
    (s t : World) : Prop where
  sublist : ∀ axis, (t.stackAt zone axis).Sublist ((effs axis).apply (s.stackAt zone axis))
  live : ∀ axis, (t.stackAt zone axis).live u = ((effs axis).apply (s.stackAt zone axis)).live u

theorem Affected.of_event {env : Env} {u : Time} {s : World} {e : ReconcilerEvent}
    {kind : SourceKind} {name : String} (hspares : e.SparesSource zone kind name u)
    (hu : SettledAt env u (reconcilerStep env s e)) :
    Affected env u zone (fun axis => e.effect env zone axis) s (reconcilerStep env s e) := by
  refine ⟨reconcilerStep_sublist env s e zone, fun axis => reconcilerStep_live ?_ zone axis⟩
  rintro now (⟨n, -, hn, rfl⟩ | ⟨z, rfl⟩)
  · exact hu n hn
  · exact hspares

theorem ReconcilerEvent.effect_spares {env : Env} {axis : AxisKind} {kind : SourceKind}
    {name : String} {u : Time} {e : ReconcilerEvent} (h : e.SparesSource zone kind name u) :
    (e.effect env zone axis).Spares (activationID kind name) := by
  cases e with
  | push _ _ act =>
    cases act with
    | none => trivial
    | some =>
      simp only [effect]
      split
      · rename_i hsame
        split
        · rename_i ra haccepted
          obtain ⟨comp, -, rfl⟩ := acceptedEntry_eq_some haccepted
          exact fun hid => h hsame.1 (activationID_inj hid)
        · trivial
      · trivial
  | remove =>
    simp only [effect]
    split
    · rename_i hzone
      exact fun hid => h hzone (activationID_inj hid)
    · trivial
  | reconcile => trivial

/-- On the zone, `full` and `rest` differ at `u` by the live entries of one id. -/
structure Erased (env : Env) (u : Time) (zone id : String) (ops : List ReconcilerEvent)
    (full rest : World) : Prop where
  valid : ∀ axis, StackValid env (full.stackAt zone axis)
  valid' : ∀ axis, StackValid env (rest.stackAt zone axis)
  agrees : ∀ axis, AgreesWith ops zone axis u (full.stackAt zone axis)
  agrees' : ∀ axis, AgreesWith ops zone axis u (rest.stackAt zone axis)
  views : ∀ axis, without id ((full.stackAt zone axis).views u) = (rest.stackAt zone axis).views u

namespace AgreesWith

variable {ops : List ReconcilerEvent} {axis : AxisKind} {u : Time} {stack' : AxisStack}

theorem sublist (h : AgreesWith ops zone axis u stack) (hsub : stack'.Sublist stack) :
    AgreesWith ops zone axis u stack' :=
  fun act hact hpolicy ra hra => h act hact hpolicy ra (hsub.subset hra)

theorem apply (hdistinct : stack.DistinctIds) (h : AgreesWith ops zone axis u stack)
    (heff : ∀ ra, eff = .push ra → FitsIn ops zone axis ra) :
    AgreesWith ops zone axis u (eff.apply stack) := by
  cases eff with
  | keep => exact h
  | push ra =>
    intro act hact hpolicy e he hid
    rcases (AxisStack.mem_push hdistinct e).mp he with ⟨hmem, -⟩ | rfl
    · exact h act hact hpolicy e hmem hid
    · rw [(AxisStack.pushedEntry_timing stack ra).1] at hid
      obtain ⟨hra, act', hact', hid', hpushed, httl⟩ := heff ra rfl act hact hid
      unfold AxisStack.pushedEntry AxisStack.refreshed
      split
      · exact Or.inl hra
      · split
        · -- the refreshed entry agreed before, or it stays with the new times too
          rename_i existing hfind
          obtain ⟨hmem, hsame⟩ := (AxisStack.find_eq_some_iff hdistinct).mp hfind
          refine (h act hact hpolicy existing hmem (hsame.trans hid)).imp id fun hlasts => ?_
          have hlive := hlasts.2 act' hact' (hsame.trans hid')
          rw [← hpushed, ← httl] at hlive
          exact ⟨hlive, hlasts.2⟩
        · exact Or.inl hra
  | remove => exact h.sublist List.eraseP_sublist

/-- A push leaves entries that look alike in two stacks that look alike. -/
theorem pushedEntry_view_eq {id : String} (hdistinct : stack.DistinctIds)
    (hdistinct' : stack'.DistinctIds) (h : AgreesWith ops zone axis u stack)
    (h' : AgreesWith ops zone axis u stack') (hviews : without id (stack.views u) = stack'.views u)
    {act : Activation} (hact : .push zone axis (some act) ∈ ops) (comp : Computer)
    (hne : activationID act.sourceKind act.sourceName ≠ id) :
    (stack.pushedEntry (ZonePolicy.resolve comp act)).view =
      (stack'.pushedEntry (ZonePolicy.resolve comp act)).view := by
  unfold AxisStack.pushedEntry
  split
  · rfl
  rename_i hpolicy
  by_cases hlasts : ∃ e ∈ stack, e.id = activationID act.sourceKind act.sourceName ∧
      Lasts ops zone axis u e
  · -- what lasts is seen in the other stack
    obtain ⟨e, he, hid, hlive, -⟩ := hlasts
    have hseen : e.view ∈ without id (stack.views u) :=
      ⟨⟨e, AxisStack.mem_live_iff.mpr ⟨he, hlive⟩, rfl⟩, hid.trans_ne hne⟩
    rw [hviews] at hseen
    obtain ⟨e', he', hview⟩ := hseen
    have hid' : e'.id = e.id := congrArg EntryView.id hview
    rw [AxisStack.refreshed_view hdistinct he hid, AxisStack.refreshed_view hdistinct'
      (AxisStack.mem_live_iff.mp he').1 (hid'.trans hid), hview]
  by_cases hlasts' : ∃ e ∈ stack', e.id = activationID act.sourceKind act.sourceName ∧
      Lasts ops zone axis u e
  · obtain ⟨e', he', hid', hlive', -⟩ := hlasts'
    have hseen : e'.view ∈ stack'.views u := ⟨e', AxisStack.mem_live_iff.mpr ⟨he', hlive'⟩, rfl⟩
    rw [← hviews] at hseen
    obtain ⟨⟨e, he, hview⟩, -⟩ := hseen
    have hid : e.id = e'.id := congrArg EntryView.id hview
    rw [AxisStack.refreshed_view hdistinct' he' hid', AxisStack.refreshed_view hdistinct
      (AxisStack.mem_live_iff.mp he).1 (hid.trans hid'), hview]
  · rw [AxisStack.refreshed_view_of_same hdistinct fun e he hid =>
        (h act hact hpolicy e he hid).resolve_right fun hl => hlasts ⟨e, he, hid, hl⟩,
      AxisStack.refreshed_view_of_same hdistinct' fun e he hid =>
        (h' act hact hpolicy e he hid).resolve_right fun hl => hlasts' ⟨e, he, hid, hl⟩]

end AgreesWith

namespace Erased

variable {env : Env} {u : Time} {zone id : String} {ops : List ReconcilerEvent}
  {full full' rest : World}

theorem own (h : Erased env u zone id ops full rest) {effs : AxisKind → StackEffect}
    (haffected : Affected env u zone effs full full') (honly : ∀ axis, (effs axis).Only id)
    (hvalid : ∀ axis ra, effs axis = .push ra → EntryValid env ra)
    (hfits : ∀ axis ra, effs axis = .push ra → FitsIn ops zone axis ra) :
    Erased env u zone id ops full' rest where
  valid axis := ((h.valid axis).apply (hvalid axis)).sublist (haffected.sublist axis)
  valid' := h.valid'
  agrees axis := (AgreesWith.apply (h.valid axis).distinct (h.agrees axis)
    (hfits axis)).sublist (haffected.sublist axis)
  agrees' := h.agrees'
  views axis := by
    have hviews : (full'.stackAt zone axis).views u =
        ((effs axis).apply (full.stackAt zone axis)).views u := by
      simp only [AxisStack.views, haffected.live axis]
    rw [hviews, AxisStack.without_views_apply (h.valid axis).distinct (honly axis), h.views axis]

theorem other {kind : SourceKind} {name : String} (hpushes : PushesAgree ops zone)
    (h : Erased env u zone (activationID kind name) ops full rest) {e : ReconcilerEvent}
    (he : e ∈ ops) (hspares : e.SparesSource zone kind name u)
    (hu : SettledAt env u (reconcilerStep env full e))
    (hu' : SettledAt env u (reconcilerStep env rest e)) :
    Erased env u zone (activationID kind name) ops (reconcilerStep env full e)
      (reconcilerStep env rest e) := by
  have hfull := Affected.of_event hspares hu
  have hrest := Affected.of_event hspares hu'
  -- the entry pushed carries the content of every push of its source
  have hfits : ∀ axis ra, e.effect env zone axis = .push ra → FitsIn ops zone axis ra := by
    intro axis ra heff act hact hid
    obtain ⟨act', rfl, haccepted⟩ := ReconcilerEvent.effect_eq_push heff
    obtain ⟨comp, -, rfl⟩ := acceptedEntry_eq_some haccepted
    obtain ⟨hkind, hname⟩ := activationID_inj hid
    exact ⟨hpushes axis act' act he hact hkind hname, act', he, rfl, rfl, rfl⟩
  refine ⟨fun axis => ((h.valid axis).effect e zone axis).sublist (hfull.sublist axis),
    fun axis => ((h.valid' axis).effect e zone axis).sublist (hrest.sublist axis),
    fun axis => (AgreesWith.apply (h.valid axis).distinct (h.agrees axis)
      (hfits axis)).sublist (hfull.sublist axis),
    fun axis => (AgreesWith.apply (h.valid' axis).distinct (h.agrees' axis)
      (hfits axis)).sublist (hrest.sublist axis), fun axis => ?_⟩
  have heffect : (e.effect env zone axis).Spares (activationID kind name) :=
    ReconcilerEvent.effect_spares hspares
  calc without (activationID kind name) (((reconcilerStep env full e).stackAt zone axis).views u)
      = without (activationID kind name) (((e.effect env zone axis).met
          (full.stackAt zone axis)).onViews u ((full.stackAt zone axis).views u)) := by
        rw [← AxisStack.views_apply (h.valid axis).distinct]
        simp only [AxisStack.views, hfull.live axis]
    _ = ((e.effect env zone axis).met (full.stackAt zone axis)).onViews u
          ((rest.stackAt zone axis).views u) := by
        rw [StackEffect.without_onViews_of_spares (heffect.met _), h.views axis]
    _ = ((e.effect env zone axis).met (rest.stackAt zone axis)).onViews u
          ((rest.stackAt zone axis).views u) := by
        cases heff : e.effect env zone axis with
        | keep => rfl
        | remove => rfl
        | push ra =>
          rw [heff] at heffect
          obtain ⟨act, rfl, haccepted⟩ := ReconcilerEvent.effect_eq_push heff
          obtain ⟨comp, -, rfl⟩ := acceptedEntry_eq_some haccepted
          exact StackEffect.onViews_push_eq ((h.agrees axis).pushedEntry_view_eq
            (h.valid axis).distinct (h.valid' axis).distinct (h.agrees' axis) (h.views axis) he comp
            heffect) u _
    _ = ((reconcilerStep env rest e).stackAt zone axis).views u := by
        rw [← AxisStack.views_apply (h.valid' axis).distinct]
        simp only [AxisStack.views, hrest.live axis]

end Erased

end IotController.Conditioner
