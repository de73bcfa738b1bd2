/-
  The representation of an axis stack, and the
  independence of the axes.

  `axisStack.entries` is a slice of pointers that its methods change in place: `push`
  assigns to the entry it meets or appends, `removeExpired` filters the backing array while
  it walks it, `removeByID` moves the entries behind the one it drops.  `StackSlice` follows
  the source at that level, and `StackOp.exec_backs` connects it with the stacks of
  `Conditioner/Stack.lean`.
-/
import IotController.Conditioner.BridgeValues
import IotController.Foundation.PointerSlice

namespace IotController.Conditioner

open Foundation Api Proto Compute

/-! ## The slice behind a stack -/

abbrev StackSlice : Type := PointerSlice RuntimeActivation

namespace StackSlice

/-- `axisStack.push`; `grow` is the allocator's choice in `append`. -/
def push (grow : Nat → Nat) (ra : RuntimeActivation) (b : StackSlice) : Checked StackSlice := do
  match ← b.search fun existing => existing.id = ra.id with
  | some i =>
    if ra.pushPolicy = .replace then .ok (b.assign i ra)
    else
      let existing ← PointerSlice.load b.cells i
      .ok (b.assign i { existing with pushedAt := ra.pushedAt, ttl := ra.ttl })
  | none => .ok (b.append grow ra)

def removeExpired (now : Time) (b : StackSlice) : Checked StackSlice :=
  b.compact fun a => !a.expired now

def removeByID (id : String) (b : StackSlice) : Checked (Bool × StackSlice) :=
  b.removeFirst fun a => a.id = id

def topLoop (now : Time) (cells : List (Option RuntimeActivation)) :
    Nat → Nat → Option RuntimeActivation → Checked (Option RuntimeActivation)
  | 0, _, best => .ok best
  | turns + 1, i, best => do
      let a ← PointerSlice.load cells i
      topLoop now cells turns (i + 1) (AxisStack.topStep now best a)

def top (now : Time) (b : StackSlice) : Checked (Option RuntimeActivation) :=
  topLoop now b.cells b.length 0 none

theorem topLoop_eq (now : Time) (tail : List (Option RuntimeActivation)) :
    ∀ (left passed : List RuntimeActivation) (best : Option RuntimeActivation),
      topLoop now ((passed ++ left).map some ++ tail) left.length passed.length best =
        .ok (left.foldl (AxisStack.topStep now) best) := by
  intro left
  induction left with
  | nil => intro passed best; rfl
  | cons a rest ih =>
    intro passed best
    have hload : PointerSlice.load ((passed ++ a :: rest).map some ++ tail) passed.length =
        .ok a := by
      simpa using PointerSlice.load_element (passed.map some) a (rest.map some ++ tail)
    have hnext := ih (passed ++ [a]) (AxisStack.topStep now best a)
    rw [List.append_assoc, List.singleton_append, List.length_append] at hnext
    simp only [List.length_cons, topLoop, hload, ok_bind, List.foldl_cons]
    exact hnext

end StackSlice

section Refinement

variable {b : StackSlice} {s : AxisStack}

theorem AxisStack.push_append_of_ne {ra : RuntimeActivation} {before : AxisStack}
    (hbefore : ∀ a ∈ before, a.id ≠ ra.id) (behind : AxisStack) :
    AxisStack.push ra (before ++ behind) = before ++ AxisStack.push ra behind := by
  induction before with
  | nil => rfl
  | cons _ _ ih =>
    obtain ⟨ha, hrest⟩ := List.forall_mem_cons.mp hbefore
    rw [List.cons_append, AxisStack.push, if_neg ha, ih hrest, List.cons_append]

theorem backs_push (h : b.Backs s) (grow : Nat → Nat) (ra : RuntimeActivation) :
    ∃ b', StackSlice.push grow ra b = .ok b' ∧ b'.Backs (AxisStack.push ra s) := by
  obtain ⟨found, hsearch, hfound⟩ := PointerSlice.search_found h fun a => a.id = ra.id
  unfold StackSlice.push
  rw [hsearch]
  cases hfound with
  | nowhere hnone =>
    have hother : ∀ a ∈ s, a.id ≠ ra.id := fun a ha => by simpa using hnone a ha
    have hpush := AxisStack.push_append_of_ne hother []
    rw [List.append_nil] at hpush
    refine ⟨b.append grow ra, rfl, ?_⟩
    rw [hpush]
    exact h.append grow ra
  | element before existing behind hs hbefore hid =>
    subst hs
    have hid' : existing.id = ra.id := by simpa using hid
    rw [AxisStack.push_append_of_ne fun a ha => by simpa using hbefore a ha, AxisStack.push,
      if_pos hid']
    simp only [ok_bind]
    by_cases hpolicy : ra.pushPolicy = .replace
    · rw [if_pos hpolicy, if_pos hpolicy]
      exact ⟨_, rfl, h.assign ra⟩
    · obtain ⟨-, spare, hcells⟩ := id h
      have hload : PointerSlice.load b.cells before.length = .ok existing := by
        rw [hcells]
        simpa using PointerSlice.load_element (before.map some) existing
          (behind.map some ++ List.replicate spare none)
      rw [if_neg hpolicy, if_neg hpolicy, hload]
      exact ⟨_, rfl, h.assign _⟩

theorem backs_removeExpired (h : b.Backs s) (now : Time) :
    ∃ b', StackSlice.removeExpired now b = .ok b' ∧ b'.Backs (s.removeExpired now) :=
  h.compact _

theorem backs_removeByID (h : b.Backs s) (id : String) :
    ∃ b', StackSlice.removeByID id b = .ok (s.any fun a => a.id = id, b') ∧
      b'.Backs (s.removeByID id) :=
  h.removeFirst _

theorem backs_top (h : b.Backs s) (now : Time) : StackSlice.top now b = .ok (s.top now) := by
  obtain ⟨hlength, spare, hcells⟩ := h
  rw [StackSlice.top, hcells, hlength]
  exact StackSlice.topLoop_eq now (List.replicate spare none) s [] none

end Refinement

/-! ## Sequences of operations -/

/-- An operation on a stack. -/
inductive StackOp where
  | push (ra : RuntimeActivation)
  | removeByID (id : String)
  | removeExpired (now : Time)

namespace StackOp

def exec (grow : Nat → Nat) (b : StackSlice) : StackOp → Checked StackSlice
  | push ra => StackSlice.push grow ra b
  | removeByID id => (StackSlice.removeByID id b).map Prod.snd
  | removeExpired now => StackSlice.removeExpired now b

def apply (s : AxisStack) : StackOp → AxisStack
  | push ra => AxisStack.push ra s
  | removeByID id => s.removeByID id
  | removeExpired now => s.removeExpired now

/-- **Refinement.**  An operation on the slice does what it does on the list. -/
theorem exec_backs {b : StackSlice} {s : AxisStack} (h : b.Backs s) (grow : Nat → Nat)
    (op : StackOp) : ∃ b', exec grow b op = .ok b' ∧ b'.Backs (apply s op) := by
  cases op with
  | push ra => exact backs_push h grow ra
  | removeByID id =>
    obtain ⟨b', hremove, hbacks⟩ := backs_removeByID h id
    exact ⟨b', by rw [exec, hremove]; rfl, hbacks⟩
  | removeExpired now => exact backs_removeExpired h now

theorem execAll_backs (grow : Nat → Nat) (ops : List StackOp) {b : StackSlice}
    {s : AxisStack} (h : b.Backs s) :
    ∃ b', ops.foldlM (exec grow) b = .ok b' ∧ b'.Backs (run apply s ops) := by
  induction ops generalizing b s with
  | nil => exact ⟨b, rfl, h⟩
  | cons op _ ih =>
    obtain ⟨b', hstep, hbacks⟩ := exec_backs h grow op
    obtain ⟨b'', hrest, hbacks'⟩ := ih hbacks
    exact ⟨b'', by rw [List.foldlM_cons, hstep]; exact hrest, hbacks'⟩

theorem distinctIds_apply {s : AxisStack} (h : s.DistinctIds) (op : StackOp) :
    (apply s op).DistinctIds := by
  cases op with
  | push ra => exact h.push ra
  | removeByID => exact h.sublist List.eraseP_sublist
  | removeExpired => exact h.sublist List.filter_sublist

theorem distinctIds_run (ops : List StackOp) : AxisStack.DistinctIds (run apply [] ops) := by
  have hstep : ∀ (s : AxisStack) (op : StackOp), s.DistinctIds → (apply s op).DistinctIds :=
    fun _ op hdistinct => distinctIds_apply hdistinct op
  have hnil : AxisStack.DistinctIds [] := List.nodup_nil
  exact run_invariant hstep hnil ops

end StackOp

/-! ## The laws of `top` -/

namespace AxisStack

/-- Higher priority, or as high and newer. -/
def Beats (b a : RuntimeActivation) : Prop :=
  a.priority < b.priority ∨ (a.priority = b.priority ∧ a.pushTime < b.pushTime)

theorem beats_iff (a b : RuntimeActivation) : Beats b a ↔ a.rank < b.rank := by
  simp [Beats, RuntimeActivation.rank, Prod.Lex.toLex_lt_toLex]

/-- A live entry that no live entry beats, or nothing when every entry has expired. -/
def IsTop (s : AxisStack) (now : Time) : Option RuntimeActivation → Prop
  | none => ∀ a ∈ s, a.expired now = true
  | some a => a ∈ s ∧ a.expired now = false ∧ ∀ b ∈ s, b.expired now = false → ¬ Beats b a

theorem isTop_top (s : AxisStack) (now : Time) : s.IsTop now (s.top now) := by
  rw [top_eq_argmax]
  cases hmax : (s.live now).argmax RuntimeActivation.rank with
  | none =>
    intro a ha
    have hnil := List.argmax_eq_none.mp hmax
    by_contra hlive
    have hmem : a ∈ s.live now := mem_live_iff.mpr ⟨ha, by simpa using hlive⟩
    rw [hnil] at hmem
    cases hmem
  | some a =>
    obtain ⟨hmem, hlive⟩ := mem_live_iff.mp (List.argmax_mem hmax)
    refine ⟨hmem, hlive, ?_⟩
    intro b hb hblive hbeats
    have hle := List.le_of_mem_argmax (mem_live_iff.mpr ⟨hb, hblive⟩) hmax
    exact absurd ((beats_iff a b).mp hbeats) (not_lt.mpr hle)

/-- Live entries of different sources do not tie. -/
def NoTies (s : AxisStack) (now : Time) : Prop :=
  ∀ a ∈ s.live now, ∀ b ∈ s.live now,
    a.priority = b.priority → a.pushTime = b.pushTime → a.id = b.id

variable {s : AxisStack} {ra rb : RuntimeActivation}

theorem top_congr_of_noTies {t : AxisStack} {now : Time} (hdistinct : s.DistinctIds)
    (hmem : ∀ e, e ∈ s ↔ e ∈ t) (hties : s.NoTies now) : s.top now = t.top now := by
  have hs := s.isTop_top now
  have ht := t.isTop_top now
  cases htop : s.top now with
  | none =>
    rw [htop] at hs
    cases htop' : t.top now with
    | none => rfl
    | some b =>
      rw [htop'] at ht
      have hexpired := hs b ((hmem b).mpr ht.1)
      rw [ht.2.1] at hexpired
      cases hexpired
  | some a =>
    rw [htop] at hs
    obtain ⟨ha, halive, hamax⟩ := hs
    cases htop' : t.top now with
    | none =>
      rw [htop'] at ht
      have hexpired := ht a ((hmem a).mp ha)
      rw [halive] at hexpired
      cases hexpired
    | some b =>
      rw [htop'] at ht
      obtain ⟨hb, hblive, hbmax⟩ := ht
      have hb' := (hmem b).mpr hb
      -- neither beats the other, so they tie, and then they are one entry
      have hab : a.rank = b.rank :=
        le_antisymm
          (not_lt.mp fun h => hbmax a ((hmem a).mp ha) halive ((beats_iff b a).mpr h))
          (not_lt.mp fun h => hamax b hb' hblive ((beats_iff a b).mpr h))
      have hpair : (a.priority, a.pushTime) = (b.priority, b.pushTime) := toLex.injective hab
      obtain ⟨hprio, htime⟩ := Prod.mk.inj hpair
      have hid := hties a (mem_live_iff.mpr ⟨ha, halive⟩) b
        (mem_live_iff.mpr ⟨hb', hblive⟩) hprio htime
      rw [List.inj_on_of_nodup_map hdistinct ha hb' hid]

theorem pushedEntry_id (s : AxisStack) (ra : RuntimeActivation) :
    (s.pushedEntry ra).id = ra.id := by
  unfold pushedEntry
  split
  · rfl
  · exact (s.refreshed_timing ra).1

theorem find_push_of_ne (hdistinct : s.DistinctIds) {id : String} (hne : id ≠ ra.id) :
    (push ra s).find id = s.find id := by
  apply Option.ext
  intro e
  rw [find_eq_some_iff (hdistinct.push ra), find_eq_some_iff hdistinct, mem_push hdistinct]
  constructor
  · rintro ⟨⟨hmem, -⟩ | rfl, hid⟩
    · exact ⟨hmem, hid⟩
    · exact absurd (hid.symm.trans (pushedEntry_id s ra)) hne
  · rintro ⟨hmem, hid⟩
    exact ⟨Or.inl ⟨hmem, hid ▸ hne⟩, hid⟩

theorem pushedEntry_push_of_ne (hdistinct : s.DistinctIds) (hne : rb.id ≠ ra.id) :
    (push ra s).pushedEntry rb = s.pushedEntry rb := by
  simp only [pushedEntry, refreshed, find_push_of_ne hdistinct hne]

theorem mem_push_push (hdistinct : s.DistinctIds) (hne : ra.id ≠ rb.id) (e : RuntimeActivation) :
    e ∈ push rb (push ra s) ↔
      (e ∈ s ∧ e.id ≠ ra.id ∧ e.id ≠ rb.id) ∨ e = s.pushedEntry ra ∨ e = s.pushedEntry rb := by
  rw [mem_push (hdistinct.push ra), mem_push hdistinct, pushedEntry_push_of_ne hdistinct hne.symm]
  constructor
  · rintro (⟨⟨hmem, ha⟩ | rfl, hb⟩ | rfl)
    · exact Or.inl ⟨hmem, ha, hb⟩
    · exact Or.inr (Or.inl rfl)
    · exact Or.inr (Or.inr rfl)
  · rintro (⟨hmem, ha, hb⟩ | rfl | rfl)
    · exact Or.inl ⟨Or.inl ⟨hmem, ha⟩, hb⟩
    · refine Or.inl ⟨Or.inr rfl, ?_⟩
      rw [pushedEntry_id]
      exact hne
    · exact Or.inr rfl

/-- **Commutation.**  Pushes of different sources commute for `top`. -/
theorem top_push_comm (hdistinct : s.DistinctIds) (hne : ra.id ≠ rb.id) {now : Time}
    (hties : (push rb (push ra s)).NoTies now) :
    (push rb (push ra s)).top now = (push ra (push rb s)).top now := by
  refine top_congr_of_noTies ((hdistinct.push ra).push rb) ?_ hties
  intro e
  rw [mem_push_push hdistinct hne, mem_push_push hdistinct hne.symm]
  tauto

theorem top_removeExpired {t now : Time} (h : t ≤ now) (s : AxisStack) :
    (s.removeExpired t).top now = s.top now := by
  rw [top_eq_argmax, top_eq_argmax, live_removeExpired h]

end AxisStack

/-- **The axis stack.**  After every sequence of operations the ids are distinct; `top` is a
live entry that no live entry beats, nil only when all have expired; pushes of different sources
commute for `top` whenever no two live entries tie; and a clean-up at `t` changes `top` at no
time from `t` on. -/
theorem axisStack_laws (grow : Nat → Nat) (ops : List StackOp) :
    ∃ b : StackSlice, ops.foldlM (StackOp.exec grow) PointerSlice.empty = .ok b ∧
      (b.entries.map RuntimeActivation.id).Nodup ∧
      (∀ now, ∃ best, b.top now = .ok best ∧ AxisStack.IsTop b.entries now best) ∧
      (∀ ra rb : RuntimeActivation, ra.id ≠ rb.id →
        ∃ ab ba : StackSlice,
          [StackOp.push ra, .push rb].foldlM (StackOp.exec grow) b = .ok ab ∧
          [StackOp.push rb, .push ra].foldlM (StackOp.exec grow) b = .ok ba ∧
          ∀ now, AxisStack.NoTies ab.entries now → ab.top now = ba.top now) ∧
      ∀ t, ∃ cleaned : StackSlice, b.removeExpired t = .ok cleaned ∧
        ∀ now, t ≤ now → cleaned.top now = b.top now := by
  obtain ⟨b, hops, hbacks⟩ := StackOp.execAll_backs grow ops PointerSlice.backs_empty
  have hdistinct := StackOp.distinctIds_run ops
  refine ⟨b, hops, ?_, ?_, ?_, ?_⟩
  · rw [hbacks.entries_eq]
    exact hdistinct
  · intro now
    rw [hbacks.entries_eq]
    exact ⟨_, backs_top hbacks now, AxisStack.isTop_top _ now⟩
  · intro ra rb hne
    obtain ⟨ab, hab, habBacks⟩ := StackOp.execAll_backs grow [.push ra, .push rb] hbacks
    obtain ⟨ba, hba, hbaBacks⟩ := StackOp.execAll_backs grow [.push rb, .push ra] hbacks
    refine ⟨ab, ba, hab, hba, ?_⟩
    intro now hties
    rw [habBacks.entries_eq] at hties
    rw [backs_top habBacks, backs_top hbaBacks]
    exact congrArg Except.ok (AxisStack.top_push_comm hdistinct hne hties)
  · intro t
    obtain ⟨cleaned, hclean, hcleanBacks⟩ := backs_removeExpired hbacks t
    refine ⟨cleaned, hclean, ?_⟩
    intro now hle
    rw [backs_top hcleanBacks, backs_top hbacks, AxisStack.top_removeExpired hle]

/-! ## Independence of the axes -/

def RuntimeActivation.Yields (ra : RuntimeActivation) (now : Time) (loc : Location)
    (val : ApplyValues) : Prop :=
  ∀ n, ra.resolved.compute n now loc ra.args = .ok val

theorem ZonePolicy.foldTops_ok {env : Env} {now : Time} :
    ∀ {tops : List (AxisKind × RuntimeActivation)} (init : ApplyValues) (s : World),
      (∀ top ∈ tops, ∃ val, top.2.Yields now env.cfg.location val) →
      ∃ target, (ZonePolicy.foldTops env now tops init s).1 = .ok target := by
  intro tops
  induction tops with
  | nil => intro init s _; exact ⟨init, rfl⟩
  | cons top _ ih =>
    intro init s hyields
    obtain ⟨⟨val, hval⟩, hrest⟩ := List.forall_mem_cons.mp hyields
    obtain ⟨axis, ra⟩ := top
    have hcompute : ra.resolved.compute s.tick now env.cfg.location ra.args = .ok val := hval s.tick
    simp only [ZonePolicy.foldTops, hcompute]
    exact ih _ s.next hrest

theorem ZonePolicy.applyTopToValues_ok {env : Env} {p : ZonePolicy} {now : Time}
    (hyields : ∀ a ra, (p.stack a).top now = some ra →
      ∃ val, ra.Yields now env.cfg.location val) (s : World) :
    ∃ target, (p.applyTopToValues env now s).1 = .ok target := by
  refine ZonePolicy.foldTops_ok _ _ ?_
  rintro ⟨a, ra⟩ hmem
  have hmem' := (env.range.perm s.tick (p.activeContributorsByAxis now)).mem_iff.mp hmem
  exact hyields a ra ((p.mem_activeContributorsByAxis_iff now a ra).mp hmem')

/-- **Non-interference.**  Two policies with the same stack on an axis compose targets that
agree there, whatever their other stacks and the orders of the two walks. -/
theorem axis_noninterference (env env' : Env) (hloc : env.cfg.location = env'.cfg.location)
    (p q : ZonePolicy) (a : AxisKind) (hstack : p.stack a = q.stack a) (now : Time)
    (hp : ∀ b ra, (p.stack b).top now = some ra → ∃ val, ra.Yields now env.cfg.location val)
    (hq : ∀ b ra, (q.stack b).top now = some ra → ∃ val, ra.Yields now env.cfg.location val)
    (s t : World) :
    ∃ v w, (p.applyTopToValues env now s).1 = .ok v ∧
      (q.applyTopToValues env' now t).1 = .ok w ∧ v.only a = w.only a := by
  obtain ⟨v, hv⟩ := ZonePolicy.applyTopToValues_ok hp s
  rw [hloc] at hq
  obtain ⟨w, hw⟩ := ZonePolicy.applyTopToValues_ok hq t
  refine ⟨v, w, hv, hw, ?_⟩
  rcases ZonePolicy.applyTopToValues_only hv a with ⟨hnone, hv'⟩ | ⟨ra, n, val, htop, hval, hv'⟩
  · rcases ZonePolicy.applyTopToValues_only hw a with ⟨-, hw'⟩ | ⟨rb, -, -, htop', -, -⟩
    · rw [hv', hw']
    · rw [← hstack, hnone] at htop'
      cases htop'
  · rcases ZonePolicy.applyTopToValues_only hw a with ⟨hnone, -⟩ | ⟨rb, m, val', htop', hval', hw'⟩
    · rw [← hstack, htop] at hnone
      cases hnone
    · -- one top, and its Computer answers both compositions alike
      rw [← hstack, htop] at htop'
      cases htop'
      obtain ⟨out, hout⟩ := hp a ra htop
      rw [hout n] at hval
      rw [← hloc, hout m] at hval'
      cases hval
      cases hval'
      rw [hv', hw']

def landingEntry (name : String) (args : List (String × String)) : RuntimeActivation :=
  ZonePolicy.resolve staticComputer
    { computerName := staticName
      args := GoMap.ofList args
      sourceKind := .manual
      sourceName := name
      pushedAt := some 0
      ttl := none
      priority := 100
      pushPolicy := .refresh }

def landingPolicy (axis : AxisKind) (other : RuntimeActivation) : ZonePolicy where
  axisStacks := (AList.singleton axis [other]).insert .state
    [landingEntry "switch" [("state", ZoneState.on.name), ("brightness", Brightness.full.name)]]

/-- A dimmer that also names a state, and a colour, leave the state the switch set. -/
theorem landing_noninterference :
    ∃ v w, ((landingPolicy .brightness (landingEntry "dimmer"
          [("brightness", Brightness.dim.name), ("state", ZoneState.off.name)])).applyTopToValues
        switchEnv 7 World.initial).1 = .ok v ∧
      ((landingPolicy .color (landingEntry "mood" [("color", "#FF0000")])).applyTopToValues
        switchEnv 7 World.initial).1 = .ok w ∧ v.only .state = w.only .state := by
  refine axis_noninterference switchEnv switchEnv rfl _ _ .state (by rfl) 7 ?_ ?_ _ _
  all_goals
    intro axis ra htop
    cases axis <;> cases htop <;> exact ⟨_, fun _ => rfl⟩

end IotController.Conditioner
