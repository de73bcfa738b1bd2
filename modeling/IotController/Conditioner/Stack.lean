/-
  Activations and axis stacks
  (`modules/conditioner/stack.go`).

  An axis stack keeps its entries in push order; `push`, `top`, `removeExpired` and
  `removeByID` are the loops of the source.  An entry is never the nil Activation that the
  source guards against: `pushActivation` rejects nil before it builds one.
-/
import IotController.Compute.Values
import IotController.Foundation.Select

namespace IotController.Conditioner

open Foundation Api Proto Compute

/-! ## Activations -/

/-- `pushedAt` and `ttl` are `none` when they are left out or `IsValid` rejects them. -/
structure Activation where
  computerName : String
  args : Args
  sourceKind : SourceKind
  sourceName : String
  pushedAt : Option Time
  ttl : Option Duration
  priority : Int
  pushPolicy : PushPolicy

def activationID (kind : SourceKind) (name : String) : String := kind.name ++ ":" ++ name

/-- An accepted Activation. -/
structure RuntimeActivation extends Activation where
  resolved : Computer
  id : String

namespace RuntimeActivation

/-- The TTL has elapsed at `now`.  With none, with zero or without a push time it never does. -/
def expired (ra : RuntimeActivation) (now : Time) : Bool :=
  match ra.ttl, ra.pushedAt with
  | some ttl, some pushedAt => ttl ≠ 0 ∧ pushedAt + ttl < now
  | _, _ => false

def pushTime (ra : RuntimeActivation) : Time := ra.pushedAt.getD 0

/-- The rank `top` compares by: priority first, then push time. -/
def rank (ra : RuntimeActivation) : Int ×ₗ Int := toLex (ra.priority, ra.pushTime)

theorem expired_mono {ra : RuntimeActivation} {t u : Time} (htu : t ≤ u)
    (h : ra.expired t = true) : ra.expired u = true := by
  unfold expired at h ⊢
  split at h
  · simp only [decide_eq_true_eq] at h ⊢
    exact ⟨h.1, lt_of_lt_of_le h.2 htu⟩
  · exact absurd h (by simp)

end RuntimeActivation

/-! ## Axis stacks -/

/-- `axisStack.entries`, in push order. -/
abbrev AxisStack : Type := List RuntimeActivation

namespace AxisStack

/-- An entry with the same id is refreshed in place, or swapped under REPLACE; a new id is
appended. -/
def push (ra : RuntimeActivation) : AxisStack → AxisStack
  | [] => [ra]
  | existing :: rest =>
    if existing.id = ra.id then
      if ra.pushPolicy = .replace then ra :: rest
      -- REFRESH: the entry keeps its arguments, Computer and priority
      else { existing with pushedAt := ra.pushedAt, ttl := ra.ttl } :: rest
    else existing :: push ra rest

theorem forall_mem_push {Q : RuntimeActivation → Prop}
    (htiming : ∀ e pushedAt ttl, Q e → Q { e with pushedAt := pushedAt, ttl := ttl })
    {ra : RuntimeActivation} (hra : Q ra) :
    ∀ {s : AxisStack}, (∀ e ∈ s, Q e) → ∀ e ∈ push ra s, Q e := by
  intro s
  induction s with
  | nil =>
    intro _ e he
    rw [List.mem_singleton.mp he]
    exact hra
  | cons head _ ih =>
    intro hstack e he
    obtain ⟨hhead, hrest⟩ := List.forall_mem_cons.mp hstack
    unfold push at he
    split at he
    · split at he
      · rcases List.mem_cons.mp he with rfl | he
        · exact hra
        · exact hrest e he
      · rcases List.mem_cons.mp he with rfl | he
        · exact htiming head ra.pushedAt ra.ttl hhead
        · exact hrest e he
    · rcases List.mem_cons.mp he with rfl | he
      · exact hhead
      · exact ih hrest e he

def topStep (now : Time) (best : Option RuntimeActivation) (a : RuntimeActivation) :
    Option RuntimeActivation :=
  if a.expired now then best
  else match best with
    | none => some a
    | some b =>
      if b.priority < a.priority then some a
      else if a.priority = b.priority ∧ b.pushTime < a.pushTime then some a
      else some b

/-- The highest priority that has not expired, the more recent push on a tie. -/
def top (s : AxisStack) (now : Time) : Option RuntimeActivation := s.foldl (topStep now) none

def removeExpired (s : AxisStack) (now : Time) : AxisStack := s.filter fun a => !a.expired now

def removeByID (s : AxisStack) (id : String) : AxisStack := s.eraseP fun a => a.id = id

def find (s : AxisStack) (id : String) : Option RuntimeActivation :=
  s.find? fun a => a.id = id

def live (s : AxisStack) (now : Time) : AxisStack := s.filter fun a => !a.expired now

theorem mem_live_iff {s : AxisStack} {now : Time} {a : RuntimeActivation} :
    a ∈ s.live now ↔ a ∈ s ∧ a.expired now = false := by
  simp [live]

theorem topStep_of_live {now : Time} {a : RuntimeActivation} (ha : a.expired now = false)
    (best : Option RuntimeActivation) :
    topStep now best a = List.argAux (fun b c => c.rank < b.rank) best a := by
  cases best with
  | none => simp [topStep, ha, List.argAux]
  | some b =>
    have hrank : b.rank < a.rank ↔
        b.priority < a.priority ∨ (b.priority = a.priority ∧ b.pushTime < a.pushTime) := by
      simp [RuntimeActivation.rank, Prod.Lex.toLex_lt_toLex]
    simp only [topStep, ha, List.argAux, hrank]
    by_cases hprio : b.priority < a.priority
    · simp [hprio]
    · simp [hprio, eq_comm]

/-- **The selection rule.**  The top is the first maximum of the live entries. -/
theorem top_eq_argmax (s : AxisStack) (now : Time) :
    s.top now = (s.live now).argmax RuntimeActivation.rank := by
  show s.foldl (topStep now) none = (s.live now).foldl (List.argAux _) none
  -- the fold is generalized over the best entry found so far
  generalize (none : Option RuntimeActivation) = best
  induction s generalizing best with
  | nil => rfl
  | cons a _ ih =>
    by_cases ha : a.expired now = true
    · have hskip : topStep now best a = best := by simp [topStep, ha]
      simp only [live, List.foldl_cons, hskip, List.filter_cons, ha, Bool.not_true,
        Bool.false_eq_true, if_false]
      exact ih best
    · have hlive : a.expired now = false := by simpa using ha
      simp only [live, List.foldl_cons, topStep_of_live hlive, List.filter_cons, hlive,
        Bool.not_false, if_true]
      exact ih _

theorem live_of_top {s : AxisStack} {now : Time} {a : RuntimeActivation}
    (h : s.top now = some a) : a ∈ s ∧ a.expired now = false := by
  rw [top_eq_argmax] at h
  exact mem_live_iff.mp (List.argmax_mem h)

theorem live_removeExpired {now t : Time} (h : now ≤ t) (s : AxisStack) :
    (s.removeExpired now).live t = s.live t := by
  simp only [live, removeExpired, List.filter_filter]
  apply List.filter_congr
  intro a _
  cases ht : a.expired t with
  | true => simp
  | false =>
    cases hn : a.expired now with
    | true => exact absurd (RuntimeActivation.expired_mono h hn) (by simp [ht])
    | false => simp

end AxisStack

/-- The stacks of a zone, one for each axis. -/
structure ZonePolicy where
  axisStacks : GoMap AxisKind AxisStack := ∅

namespace ZonePolicy

def stack (p : ZonePolicy) (axis : AxisKind) : AxisStack := (p.axisStacks.lookup axis).getD []

def activeContributorsByAxis (p : ZonePolicy) (now : Time) :
    List (AxisKind × RuntimeActivation) :=
  p.axisStacks.entries.filterMap fun e => (AxisStack.top e.2 now).map fun top => (e.1, top)

end ZonePolicy

end IotController.Conditioner
