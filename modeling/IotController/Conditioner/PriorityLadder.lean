/-
  Alerts over bindings over time windows.

  The bridges push with three source kinds and fixed priorities.  A refresh keeps the
  priority of the entry it meets, so dominance is an invariant over all push histories:
  every entry's priority is the one of its source kind (`Laddered`).
-/
import IotController.Conditioner.Bridge
import IotController.Foundation.Numerals
import IotController.Foundation.Run

namespace IotController.Conditioner

open Foundation Api Proto Compute

/-! ## Source kinds and ids -/

def rung : SourceKind → Nat
  | .alert => 2
  | .binding => 1
  | _ => 0

theorem colon_notMem_name (kind : SourceKind) : ':' ∉ kind.name.toList := by
  cases kind with
  | unrecognized n => exact notMem_intRepr (by decide) n
  | unspecified | background | timeWindow | binding | alert | button | manual => decide

theorem sourceKind_name_injective {k l : SourceKind} (h : k.name = l.name) : k = l := by
  have hnamed : ∀ (n : Int) (m : SourceKind), 'S' ∈ m.name.toList →
      m.name ≠ (SourceKind.unrecognized n).name :=
    fun n m hm heq => notMem_intRepr (by decide) n (heq ▸ hm)
  cases k <;> cases l <;>
    first
    | rfl
    | exact absurd h (by decide)
    | exact congrArg SourceKind.unrecognized (intRepr_injective (by exact h))
    | exact absurd h (hnamed _ _ (by decide))
    | exact absurd h.symm (hnamed _ _ (by decide))

/-- **An id determines its source.** -/
theorem activationID_inj {k l : SourceKind} {a b : String}
    (h : activationID k a = activationID l b) : k = l ∧ a = b := by
  have hlist : ∀ (kind : SourceKind) (name : String),
      (activationID kind name).toList = kind.name.toList ++ ':' :: name.toList := by
    intro kind name
    simp only [activationID, String.toList_append, List.append_assoc]
    rfl
  have htake : ∀ (kind : SourceKind) (name : String),
      (activationID kind name).toList.takeWhile (· ≠ ':') = kind.name.toList := by
    intro kind name
    rw [hlist, List.takeWhile_append_of_pos]
    · simp
    · intro c hc
      simpa using fun heq : c = ':' => colon_notMem_name kind (heq ▸ hc)
  have hkind : k = l := by
    refine sourceKind_name_injective (String.toList_inj.mp ?_)
    rw [← htake k a, h, htake l b]
  refine ⟨hkind, String.toList_inj.mp ?_⟩
  have hlists := congrArg String.toList h
  rw [hlist, hlist, hkind] at hlists
  exact List.cons.inj (List.append_cancel_left hlists) |>.2

theorem rung_eq_of_activationID_eq {k l : SourceKind} {a b : String}
    (h : activationID k a = activationID l b) : rung k = rung l := by
  rw [(activationID_inj h).1]

/-! ## Ladders on one stack -/

/-- The priority is that of the source. -/
def Laddered (ra : RuntimeActivation) : Prop :=
  ra.id = activationID ra.sourceKind ra.sourceName ∧
    ((ra.sourceKind = .alert ∧ ra.priority = bridgeAlertPriority) ∨
      (ra.sourceKind = .binding ∧ ra.priority = bridgeImperativePriority) ∨
      (ra.sourceKind = .timeWindow ∧
        (ra.priority = bridgePushPriority ∨ ra.priority = bridgeScenePriority)))

theorem Laddered.rank_lt {a b : RuntimeActivation} (ha : Laddered a) (hb : Laddered b)
    (h : rung a.sourceKind < rung b.sourceKind) : a.rank < b.rank := by
  have hprio : a.priority < b.priority := by
    obtain ⟨-, ha⟩ := ha
    obtain ⟨-, hb⟩ := hb
    simp only [bridgeAlertPriority, bridgeImperativePriority, bridgePushPriority,
      bridgeScenePriority] at ha hb
    rcases ha with ⟨hk, hp⟩ | ⟨hk, hp⟩ | ⟨hk, hp⟩ <;>
      rcases hb with ⟨hk', hp'⟩ | ⟨hk', hp'⟩ | ⟨hk', hp'⟩ <;>
      simp only [hk, hk', rung] at h <;> omega
  simp only [RuntimeActivation.rank, Prod.Lex.toLex_lt_toLex]
  exact Or.inl hprio

namespace AxisStack

def above (s : AxisStack) (k : Nat) (t : Time) : AxisStack :=
  (s.live t).filter fun ra => k < rung ra.sourceKind

variable {s : AxisStack} {ra : RuntimeActivation}

theorem mem_above_iff {k : Nat} {t : Time} :
    ra ∈ s.above k t ↔ ra ∈ s.live t ∧ k < rung ra.sourceKind := by
  simp [above]

/-- **The ladder decides.**  While an entry above rung `k` is alive, the top is
chosen among those alone. -/
theorem top_eq_argmax_above (hladder : ∀ ra ∈ s, Laddered ra) {k : Nat} {t : Time}
    {d : RuntimeActivation} (hd : d ∈ s.above k t) :
    s.top t = (s.above k t).argmax RuntimeActivation.rank := by
  obtain ⟨hlive, hrung⟩ := mem_above_iff.mp hd
  rw [top_eq_argmax, above, argmax_filter_of_dominated]
  refine ⟨d, hlive, by simpa using hrung, fun a ha hlow => ?_⟩
  refine (hladder a (mem_live_iff.mp ha).1).rank_lt (hladder d (mem_live_iff.mp hlive).1) ?_
  have hle : rung a.sourceKind ≤ k := by simpa using hlow
  omega

theorem top_above (hladder : ∀ ra ∈ s, Laddered ra) {k : Nat} {t : Time} {d : RuntimeActivation}
    (hd : d ∈ s.above k t) : ∃ ra, s.top t = some ra ∧ ra ∈ s.above k t := by
  rw [top_eq_argmax_above hladder hd]
  cases hmax : (s.above k t).argmax RuntimeActivation.rank with
  | none =>
    rw [List.argmax_eq_none.mp hmax] at hd
    simp at hd
  | some ra => exact ⟨ra, rfl, List.argmax_mem hmax⟩

theorem above_cons_of_le {e : RuntimeActivation} {k : Nat} {t : Time} (he : rung e.sourceKind ≤ k)
    (rest : AxisStack) : above (e :: rest) k t = above rest k t := by
  simp only [above, live, List.filter_cons]
  split
  · rw [List.filter_cons, if_neg (by simpa using he)]
  · rfl

theorem above_cons_congr {rest rest' : AxisStack} {k : Nat} {t : Time}
    (h : above rest k t = above rest' k t) (e : RuntimeActivation) :
    above (e :: rest) k t = above (e :: rest') k t := by
  simp only [above, live, List.filter_cons] at h ⊢
  split
  · rw [List.filter_cons, List.filter_cons, h]
  · exact h

theorem above_push {k : Nat} (t : Time) (hra : rung ra.sourceKind ≤ k) :
    ∀ {s : AxisStack}, (∀ e ∈ s, e.id = ra.id → rung e.sourceKind ≤ k) →
      (push ra s).above k t = s.above k t := by
  intro s
  induction s with
  | nil => exact fun _ => above_cons_of_le hra []
  | cons e rest ih =>
    intro hsame
    unfold push
    split
    · rename_i hid
      have he : rung e.sourceKind ≤ k := hsame e List.mem_cons_self hid
      rw [above_cons_of_le he]
      split
      · exact above_cons_of_le hra rest
      · apply above_cons_of_le
        exact he
    · exact above_cons_congr (ih fun e' he' => hsame e' (List.mem_cons_of_mem _ he')) e

theorem above_removeByID {id : String} {k : Nat} (t : Time)
    (hsame : ∀ e ∈ s, e.id = id → rung e.sourceKind ≤ k) :
    (s.removeByID id).above k t = s.above k t := by
  induction s with
  | nil => rfl
  | cons e rest ih =>
    by_cases hid : e.id = id
    · rw [removeByID, List.eraseP_cons_of_pos (by simpa using hid)]
      exact (above_cons_of_le (hsame e List.mem_cons_self hid) rest).symm
    · rw [removeByID, List.eraseP_cons_of_neg (by simpa using hid)]
      exact above_cons_congr (ih fun e' he' => hsame e' (List.mem_cons_of_mem _ he')) e

theorem above_cleaned {axis : AxisKind} {now t : Time} (h : now ≤ t) (k : Nat) (s : AxisStack) :
    (s.cleaned axis now).above k t = s.above k t := by
  rw [above, live_cleaned h, above]

theorem laddered_push (hra : Laddered ra) :
    ∀ {s : AxisStack}, (∀ e ∈ s, Laddered e) → ∀ e ∈ push ra s, Laddered e :=
  forall_mem_push (fun _ _ _ h => h) hra

end AxisStack

/-! ## Steps -/

def LadderInv (s : World) : Prop := ∀ zone axis, ∀ ra ∈ s.stackAt zone axis, Laddered ra

theorem LadderInv.rung_of_id {s : World} (h : LadderInv s) {zone : String} {axis : AxisKind}
    {kind : SourceKind} {name : String} {k : Nat} (hk : rung kind ≤ k) :
    ∀ e ∈ s.stackAt zone axis, e.id = activationID kind name → rung e.sourceKind ≤ k := by
  intro e he hid
  rw [rung_eq_of_activationID_eq ((h zone axis e he).1.symm.trans hid)]
  exact hk

/-- `t` comes from `s` by steps up to rung `k`: the ladder holds, and the entries above are the
same from the last clock reading on. -/
structure LowerSteps (env : Env) (k : Nat) (s t : World) : Prop where
  ladder : LadderInv t
  tick : s.tick ≤ t.tick
  above : ∀ zone axis T, (∀ n, s.tick ≤ n → n < t.tick → env.clock n ≤ T) →
    (t.stackAt zone axis).above k T = (s.stackAt zone axis).above k T

section Steps

variable {env : Env} {k : Nat} {s t u : World}

theorem LowerSteps.refl (h : LadderInv s) : LowerSteps env k s s :=
  ⟨h, le_refl _, fun _ _ _ _ => rfl⟩

theorem LowerSteps.trans (hst : LowerSteps env k s t) (htu : LowerSteps env k t u) :
    LowerSteps env k s u where
  ladder := htu.ladder
  tick := le_trans hst.tick htu.tick
  above := fun zone axis T hT =>
    (htu.above zone axis T fun n hn hn' => hT n (le_trans hst.tick hn) hn').trans
      (hst.above zone axis T fun n hn hn' => hT n hn (lt_of_lt_of_le hn' htu.tick))

theorem LowerSteps.of_zone {zone : String} (h : LadderInv s) (hframe : ReconcilerFrame zone s t)
    (hladder : ∀ axis, ∀ ra ∈ t.stackAt zone axis, Laddered ra)
    (habove : ∀ axis T, (∀ n, s.tick ≤ n → n < t.tick → env.clock n ≤ T) →
      (t.stackAt zone axis).above k T = (s.stackAt zone axis).above k T) :
    LowerSteps env k s t := by
  refine ⟨hframe.forall_mem_stackAt h hladder, hframe.tick, fun z axis T hT => ?_⟩
  exact hframe.forall_stackAt
    (P := fun z axis stack => stack.above k T = (s.stackAt z axis).above k T)
    (fun _ _ => rfl) (fun axis => habove axis T hT) z axis

theorem LowerSteps.next (h : LadderInv s) : LowerSteps env k s s.next :=
  ⟨h, Nat.le_succ _, fun _ _ _ _ => rfl⟩

theorem LowerSteps.pushActivation (h : LadderInv s) (zone : String) (axis : AxisKind)
    {act : Activation} (hact : ∀ comp, Laddered (ZonePolicy.resolve comp act))
    (hk : rung act.sourceKind ≤ k) :
    LowerSteps env k s (Conditioner.pushActivation env zone axis (some act) s).2 := by
  refine LowerSteps.of_zone h (pushActivation_frame env zone axis (some act) s) ?_ ?_
  · intro a ra hra
    rcases pushActivation_stackAt env zone axis act s with ⟨-, hsame⟩ | ⟨comp, n, -, -, -, hstack⟩
    · rw [hsame a] at hra
      exact h zone a ra hra
    · rw [hstack a] at hra
      have hmem := AxisStack.mem_of_mem_cleaned hra
      split at hmem
      · exact AxisStack.laddered_push (hact comp) (h zone a) ra hmem
      · exact h zone a ra hmem
  · intro a T hT
    rcases pushActivation_stackAt env zone axis act s with ⟨-, hsame⟩ | ⟨comp, n, -, hn, hn', hstack⟩
    · rw [hsame a]
    · rw [hstack a, AxisStack.above_cleaned (hT n hn hn')]
      split
      · exact AxisStack.above_push T hk (h.rung_of_id hk)
      · rfl

theorem LowerSteps.removeActivation (h : LadderInv s) (zone : String) {kind : SourceKind}
    (name : String) (hk : rung kind ≤ k) :
    LowerSteps env k s (Conditioner.removeActivation env zone kind name s).2 := by
  refine LowerSteps.of_zone h (removeActivation_frame env zone kind name s) ?_ ?_
  · intro a ra hra
    rcases removeActivation_stackAt env zone kind name s with hsame | ⟨-, hstack⟩
    · rw [hsame a] at hra
      exact h zone a ra hra
    · rw [hstack a] at hra
      exact h zone a ra (List.mem_of_mem_eraseP (AxisStack.mem_of_mem_cleaned hra))
  · intro a T hT
    rcases removeActivation_stackAt env zone kind name s with hsame | ⟨htick, hstack⟩
    · rw [hsame a]
    · rw [hstack a, AxisStack.above_cleaned (hT s.tick (le_refl _) htick)]
      exact AxisStack.above_removeByID T (h.rung_of_id hk)

theorem LowerSteps.of_pushRun {zone : String} {admitted : Activation → Prop} (h : LadderInv s)
    (hadmitted : ∀ act, admitted act →
      (∀ comp, Laddered (ZonePolicy.resolve comp act)) ∧ rung act.sourceKind ≤ k)
    (hrun : PushRun env zone admitted s.next t) : LowerSteps env k s t := by
  refine hrun.invariant ?_ ?_ (LowerSteps.next h)
  · intro t ht
    exact ht.trans (LowerSteps.next ht.ladder)
  · intro t axis act hact ht
    obtain ⟨hladdered, hk⟩ := hadmitted act hact
    exact ht.trans (LowerSteps.pushActivation ht.ladder zone axis hladdered hk)

end Steps

/-! ## Runs of the bridges -/

/-- What can happen to the stacks. -/
inductive BridgeEvent where
  | evaluate (condName : String) (rem : Remediation)
  | activate (condName : String) (rem : Remediation) (src : SourceKind)
  | remove (zone : String) (kind : SourceKind) (name : String)
  | reconcile (zone : String) (now : Time)

namespace BridgeEvent

def step (env : Env) (s : World) : BridgeEvent → World
  | evaluate condName rem => bridgeReconciledRemediation env condName rem s
  | activate condName rem src => (bridgeImperativeActivate env condName rem src s).2
  | remove zone kind name => (removeActivation env zone kind name s).2
  | reconcile zone now => (reconcileZone env zone now s).2

/-- The imperative bridge is called for alerts and bindings only. -/
def Admitted : BridgeEvent → Prop
  | activate _ _ src => src = .alert ∨ src = .binding
  | _ => True

def rung : BridgeEvent → Nat
  | evaluate _ _ => Conditioner.rung .timeWindow
  | activate _ _ src => Conditioner.rung src
  | remove _ kind _ => Conditioner.rung kind
  | reconcile _ _ => 0

/-- `t` is no earlier than the times at which the event cleans up. -/
def SettledBy (env : Env) (s : World) (t : Time) (e : BridgeEvent) : Prop :=
  (∀ n, s.tick ≤ n → n < (e.step env s).tick → env.clock n ≤ t) ∧
    ∀ zone now, e = reconcile zone now → now ≤ t

end BridgeEvent

theorem IsTimeWindow.laddered {env : Env} {condName : String} {now : Time} {act : Activation}
    (h : IsTimeWindow env condName now act) (comp : Computer) :
    Laddered (ZonePolicy.resolve comp act) := by
  obtain ⟨priority, c, rfl, hpriority⟩ := h
  exact ⟨rfl, Or.inr (Or.inr ⟨rfl, hpriority⟩)⟩

theorem IsImperative.laddered {env : Env} {condName : String} {src : SourceKind} {now : Time}
    {act : Activation} (h : IsImperative env condName src now act)
    (hsrc : src = .alert ∨ src = .binding) (comp : Computer) :
    Laddered (ZonePolicy.resolve comp act) := by
  obtain ⟨c, rfl⟩ := h
  rcases hsrc with rfl | rfl
  · exact ⟨rfl, Or.inl ⟨rfl, rfl⟩⟩
  · exact ⟨rfl, Or.inr (Or.inl ⟨rfl, rfl⟩)⟩

theorem LadderInv.step {env : Env} {s : World} (h : LadderInv s) {e : BridgeEvent}
    (hadmitted : e.Admitted) :
    LadderInv (e.step env s) ∧ ∀ zone axis t, e.SettledBy env s t →
      ((e.step env s).stackAt zone axis).above e.rung t = (s.stackAt zone axis).above e.rung t := by
  have hlower : ∀ {t : World}, LowerSteps env e.rung s t → t = e.step env s →
      LadderInv (e.step env s) ∧ ∀ zone axis t, e.SettledBy env s t →
        ((e.step env s).stackAt zone axis).above e.rung t =
          (s.stackAt zone axis).above e.rung t := by
    rintro t hsteps rfl
    exact ⟨hsteps.ladder, fun zone axis t ht => hsteps.above zone axis t ht.1⟩
  cases e with
  | evaluate condName rem =>
    refine hlower (LowerSteps.of_pushRun h (fun act hact => ⟨hact.laddered, ?_⟩)
      (bridgeReconciledRemediation_pushRun env condName rem s)) rfl
    obtain ⟨priority, c, rfl, -⟩ := hact
    exact le_refl _
  | activate condName rem src =>
    refine hlower (LowerSteps.of_pushRun h (fun act hact => ⟨hact.laddered hadmitted, ?_⟩)
      (bridgeImperativeActivate_pushRun env condName rem src s)) rfl
    obtain ⟨c, rfl⟩ := hact
    exact le_refl _
  | remove zone _ name => exact hlower (LowerSteps.removeActivation h zone name (le_refl _)) rfl
  | reconcile zone now =>
    have hframe := reconcileZone_frame env zone now s
    refine ⟨hframe.forall_mem_stackAt h fun axis ra hra => ?_, fun z axis t ht => ?_⟩
    · rw [reconcileZone_stackAt] at hra
      exact h zone axis ra (AxisStack.mem_of_mem_cleaned hra)
    · refine hframe.forall_stackAt
        (P := fun z axis stack => stack.above 0 t = (s.stackAt z axis).above 0 t)
        (fun _ _ => rfl) (fun axis => ?_) z axis
      rw [reconcileZone_stackAt, AxisStack.above_cleaned (ht.2 zone now rfl)]

/-! ## The ladder -/

theorem Laddered.kind_of_rung {ra : RuntimeActivation} (h : Laddered ra) :
    (1 < rung ra.sourceKind → ra.sourceKind = .alert) ∧
      (0 < rung ra.sourceKind → ra.sourceKind = .alert ∨ ra.sourceKind = .binding) ∧
      (ra.sourceKind = .alert ∨ ra.sourceKind = .binding ∨ ra.sourceKind = .timeWindow) := by
  obtain ⟨-, h⟩ := h
  rcases h with ⟨hk, -⟩ | ⟨hk, -⟩ | ⟨hk, -⟩ <;> simp [hk, rung]

/-- **The priority ladder.**  After every run of the bridges, removals and reconciles, the top
of every axis at every time is an alert entry while one is alive, else a binding entry, else a
time-window entry.  While an entry above a rung is alive, neither an event on the rung nor the
expiry of entries up to it changes the top. -/
theorem bridge_priority_ladder (env : Env) (events : List BridgeEvent)
    (hadmitted : ∀ e ∈ events, e.Admitted) (zone : String) (axis : AxisKind) (t : Time) :
    let s := run (BridgeEvent.step env) World.initial events
    let stack := s.stackAt zone axis
    ((∃ ra ∈ stack.live t, ra.sourceKind = .alert) →
        ∃ top, stack.top t = some top ∧ top.sourceKind = .alert) ∧
      ((∀ ra ∈ stack.live t, ra.sourceKind ≠ .alert) →
        (∃ ra ∈ stack.live t, ra.sourceKind = .binding) →
          ∃ top, stack.top t = some top ∧ top.sourceKind = .binding) ∧
      ((∀ ra ∈ stack.live t, ra.sourceKind ≠ .alert ∧ ra.sourceKind ≠ .binding) →
        (∃ ra, ra ∈ stack.live t) →
          ∃ top, stack.top t = some top ∧ top.sourceKind = .timeWindow) ∧
      (∀ e : BridgeEvent, e.Admitted → e.SettledBy env s t →
        (∃ ra ∈ stack.live t, e.rung < rung ra.sourceKind) →
          ((e.step env s).stackAt zone axis).top t = stack.top t) ∧
      ∀ u k, (∃ ra ∈ stack.live u, k < rung ra.sourceKind) →
        (∀ ra ∈ stack, k < rung ra.sourceKind → ra.expired u = ra.expired t) →
          stack.top u = stack.top t := by
  intro s stack
  have hinv : LadderInv s := by
    refine run_invariant_of_mem (fun s e he hs => (hs.step (hadmitted e he)).1) ?_
    intro z a ra hra
    simp [World.initial, World.stackAt] at hra
  have hladder : ∀ ra ∈ stack, Laddered ra := hinv zone axis
  have hlive : ∀ {v ra}, ra ∈ stack.live v → Laddered ra := fun hra =>
    hladder _ (AxisStack.mem_live_iff.mp hra).1
  refine ⟨?_, ?_, ?_, ?_, ?_⟩
  · rintro ⟨ra, hra, hkind⟩
    have hd : ra ∈ stack.above 1 t := AxisStack.mem_above_iff.mpr ⟨hra, by simp [hkind, rung]⟩
    obtain ⟨top, htop, habove⟩ := AxisStack.top_above hladder hd
    obtain ⟨hmem, hrung⟩ := AxisStack.mem_above_iff.mp habove
    exact ⟨top, htop, (hlive hmem).kind_of_rung.1 hrung⟩
  · rintro hnone ⟨ra, hra, hkind⟩
    have hd : ra ∈ stack.above 0 t := AxisStack.mem_above_iff.mpr ⟨hra, by simp [hkind, rung]⟩
    obtain ⟨top, htop, habove⟩ := AxisStack.top_above hladder hd
    obtain ⟨hmem, hrung⟩ := AxisStack.mem_above_iff.mp habove
    exact ⟨top, htop, ((hlive hmem).kind_of_rung.2.1 hrung).resolve_left (hnone top hmem)⟩
  · rintro hnone ⟨ra, hra⟩
    cases htop : stack.top t with
    | none =>
      rw [AxisStack.top_eq_argmax] at htop
      exact absurd (List.argmax_eq_none.mp htop) (List.ne_nil_of_mem hra)
    | some top =>
      have hmem := AxisStack.mem_live_iff.mpr (AxisStack.live_of_top htop)
      obtain ⟨halert, hbinding⟩ := hnone top hmem
      exact ⟨top, rfl,
        ((hlive hmem).kind_of_rung.2.2.resolve_left halert).resolve_left hbinding⟩
  · rintro e hadm hsettled ⟨ra, hra, hrung⟩
    obtain ⟨hinv', habove⟩ := hinv.step hadm
    have hsame := habove zone axis t hsettled
    have hd : ra ∈ stack.above e.rung t := AxisStack.mem_above_iff.mpr ⟨hra, hrung⟩
    have hd' : ra ∈ ((e.step env s).stackAt zone axis).above e.rung t := hsame ▸ hd
    rw [AxisStack.top_eq_argmax_above (hinv' zone axis) hd',
      AxisStack.top_eq_argmax_above hladder hd, hsame]
  · rintro u k ⟨ra, hra, hrung⟩ hexpiry
    have hsame : stack.above k u = stack.above k t := by
      simp only [AxisStack.above, AxisStack.live, List.filter_filter]
      refine List.filter_congr fun e he => ?_
      by_cases hk : k < rung e.sourceKind
      · rw [hexpiry e he hk]
      · simp [hk]
    have hd : ra ∈ stack.above k u := AxisStack.mem_above_iff.mpr ⟨hra, hrung⟩
    rw [AxisStack.top_eq_argmax_above hladder hd,
      AxisStack.top_eq_argmax_above hladder (hsame ▸ hd), hsame]

def hallEnv : Env := Env.idle ["hall"]

def hallEvents : List BridgeEvent :=
  [.evaluate "evening" { zone := "hall", activeState := "on" },
    .activate "motion" { zone := "hall", activeState := "on" } .alert,
    .activate "switch" { zone := "hall", activeState := "off" } .binding]

/-- The switch does not win over the alert, and the evening's entry decides while it
is the only one. -/
theorem hall_alert_over_switch :
    (((run (BridgeEvent.step hallEnv) World.initial hallEvents).stackAt "hall" .state).map
        (·.sourceKind) = [.timeWindow, .alert, .binding]) ∧
      (∃ top, ((run (BridgeEvent.step hallEnv) World.initial hallEvents).stackAt "hall" .state).top
        10 = some top ∧ top.sourceKind = .alert) ∧
      ∃ top, ((run (BridgeEvent.step hallEnv) World.initial (hallEvents.take 1)).stackAt "hall"
        .state).top 10 = some top ∧ top.sourceKind = .timeWindow := by
  have hadmitted : ∀ e ∈ hallEvents, e.Admitted := by simp [hallEvents, BridgeEvent.Admitted]
  refine ⟨rfl, (bridge_priority_ladder hallEnv hallEvents hadmitted "hall" .state 10).1
    ⟨_, List.mem_cons_of_mem _ List.mem_cons_self, rfl⟩, ?_⟩
  refine (bridge_priority_ladder hallEnv (hallEvents.take 1)
    (fun e he => hadmitted e (List.mem_of_mem_take he)) "hall" .state 10).2.2.1 ?_
    ⟨_, List.mem_cons_self⟩
  intro ra hra
  rw [List.mem_singleton.mp hra]
  decide

end IotController.Conditioner
