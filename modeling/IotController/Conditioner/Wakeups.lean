/-
  Every deadline has its wakeup.

  A push with a positive TTL arms a timer under the zone, the axis and the id of its source;
  a later push of the source replaces it, a removal leaves it, and a timer that has run
  stays registered.
-/
import IotController.Conditioner.Alert
import IotController.Conditioner.TransientFailure

namespace IotController.Conditioner

open Foundation Api Proto Compute

theorem slash_notMem_axisName (axis : AxisKind) : '/' ∉ axis.name.toList := by
  cases axis with
  | unrecognized n => exact notMem_intRepr (by decide) n
  | unspecified | state | brightness | colorTemperature | color => decide

theorem axisName_injective {a b : AxisKind} (h : a.name = b.name) : a = b := by
  have hnamed : ∀ (n : Int) (c : AxisKind), 'X' ∈ c.name.toList →
      c.name ≠ (AxisKind.unrecognized n).name :=
    fun n c hc heq => notMem_intRepr (by decide) n (heq ▸ hc)
  cases a <;> cases b <;>
    first
    | rfl
    | exact absurd h (by decide)
    | exact congrArg AxisKind.unrecognized (intRepr_injective (by exact h))
    | exact absurd h (hnamed _ _ (by decide))
    | exact absurd h.symm (hnamed _ _ (by decide))

/-- **A key determines its timer's zone, axis and source.** -/
theorem timerKey_inj {z w : String} (hz : Slashless z) (hw : Slashless w) {a b : AxisKind}
    {i j : String} (h : timerKey z a i = timerKey w b j) : z = w ∧ a = b ∧ i = j := by
  have hsplit : ∀ (zone : String) (axis : AxisKind) (id : String),
      timerKey zone axis id = alertActiveKey zone (alertActiveKey axis.name id) := by
    intro zone axis id
    simp only [timerKey, alertActiveKey, String.append_assoc]
  rw [hsplit, hsplit] at h
  obtain ⟨hzone, hrest⟩ := alertActiveKey_inj hz hw h
  obtain ⟨haxis, hid⟩ := alertActiveKey_inj (slash_notMem_axisName a) (slash_notMem_axisName b) hrest
  exact ⟨hzone, axisName_injective haxis, hid⟩

/-! ## Operations -/

/-- A world, and the timers that have run. -/
structure WakeWorld where
  world : World := {}
  ran : List (String × ReconcileTimer) := []

/-- The timer is in the map and has not run. -/
def WakeWorld.Armed (w : WakeWorld) (key : String) (timer : ReconcileTimer) : Prop :=
  w.world.ttlTimers.lookup key = some timer ∧ (key, timer) ∉ w.ran

/-- A bridge's operation, a push stamped with the time it reads first, or a timer that runs. -/
inductive WakeOp where
  | bridge (e : BridgeEvent)
  | push (zone : String) (axis : AxisKind) (act : Activation)
  | fire (key : String)

namespace WakeOp

/-- One operation, or a timer that reconciles. -/
def step (env : Env) (w : WakeWorld) : WakeOp → WakeWorld
  | bridge e => { w with world := e.step env w.world }
  | push zone axis act =>
    let stamped := { act with pushedAt := some (env.clock w.world.tick) }
    { w with world := (pushActivation env zone axis (some stamped) w.world.next).2 }
  | fire key =>
    match w.world.ttlTimers.lookup key with
    | none => w
    | some timer =>
      if (key, timer) ∉ w.ran ∧ timer.due ≤ env.clock w.world.tick then
        { world := (reconcileZone env timer.zone (env.clock w.world.tick) w.world.next).2
          ran := (key, timer) :: w.ran }
      else w

def Slashless : WakeOp → Prop
  | bridge (.evaluate _ rem) | bridge (.activate _ rem _) => Conditioner.Slashless rem.zone
  | push zone _ _ => Conditioner.Slashless zone
  | _ => True

/-- From the operation's first reading of the clock to its last. -/
def duration (env : Env) (w : WakeWorld) (op : WakeOp) : Duration :=
  env.clock ((op.step env w).world.tick - 1) - env.clock w.world.tick

end WakeOp

theorem reconcileZone_ttlTimers (env : Env) (zone : String) (now : Time) (s : World) :
    (reconcileZone env zone now s).2.ttlTimers = s.ttlTimers := by
  have h := reconcileZone_reconciled env zone now s
  generalize reconcileZone env zone now s = result at h
  cases h <;> rfl

theorem reconcileNow_ttlTimers (env : Env) (zone : String) (wrap : Error → Error) (s : World) :
    (reconcileNow env zone wrap s).2.ttlTimers = s.ttlTimers := by
  rw [reconcileNow_eq]
  exact reconcileZone_ttlTimers env zone _ s.next

theorem removeActivation_ttlTimers (env : Env) (zone : String) (kind : SourceKind) (name : String)
    (s : World) : (removeActivation env zone kind name s).2.ttlTimers = s.ttlTimers := by
  simp only [removeActivation]
  split
  · rfl
  · exact reconcileNow_ttlTimers env zone _ _

theorem pushActivation_ttlTimers (env : Env) (zone : String) (axis : AxisKind) (act : Activation)
    (s : World) :
    (pushActivation env zone axis (some act) s).2.ttlTimers =
      match acceptedEntry env zone axis act, act.ttl with
      | some ra, some ttl =>
        if 0 < ttl then s.ttlTimers.insert (timerKey zone axis ra.id)
          { zone := zone, due := env.clock s.tick + ttl }
        else s.ttlTimers
      | _, _ => s.ttlTimers := by
  unfold pushActivation acceptedEntry
  by_cases hzone : zone = ""
  · simp [hzone]
  · by_cases haxis : axis = .unspecified
    · simp [hzone, haxis]
    · by_cases hname : act.computerName = ""
      · simp [hzone, haxis, hname, ZonePolicy.pushActivation]
      · cases hcomp : env.getComputer act.computerName with
        | none => simp [hzone, haxis, hname, hcomp, ZonePolicy.pushActivation]
        | some comp =>
          simp only [hzone, haxis, hname, hcomp, ZonePolicy.pushActivation, if_false,
            or_self, Option.map_some, reconcileNow_ttlTimers, armTimer]
          cases act.ttl with
          | none => rfl
          | some ttl =>
            dsimp only
            split <;> rfl

/-! ## The invariant -/

/-- The entry has expired or its timer has not run; `D` relates the push time to the timer's
reading of the clock. -/
def Timed (env : Env) (D : Time → Nat → Prop) (w : WakeWorld) (zone : String) (axis : AxisKind)
    (ra : RuntimeActivation) (ttl : Duration) : Prop :=
  (∃ n < w.world.tick, ra.expired (env.clock n) = true) ∨
    ∃ pushed n, ra.pushedAt = some pushed ∧ n < w.world.tick ∧ D pushed n ∧
      w.Armed (timerKey zone axis ra.id) { zone := zone, due := env.clock n + ttl }

/-- Every entry with a TTL is timed. -/
structure Woken (env : Env) (D : Time → Nat → Prop) (w : WakeWorld) : Prop where
  valid : WellStacked env w.world
  past : ∀ f ∈ w.ran, ∃ n < w.world.tick, f.2.due ≤ env.clock n
  timed : ∀ zone, Slashless zone → ∀ axis, ∀ ra ∈ w.world.stackAt zone axis, ∀ ttl,
    ra.ttl = some ttl → ttl ≠ 0 → Timed env D w zone axis ra ttl

theorem RuntimeActivation.expired_of_lt {ra : RuntimeActivation} {pushed now : Time}
    {ttl : Duration} (hpushed : ra.pushedAt = some pushed) (httl : ra.ttl = some ttl)
    (hne : ttl ≠ 0) (hlt : pushed + ttl < now) : ra.expired now = true := by
  simp [RuntimeActivation.expired, hpushed, httl, hne, hlt]

namespace Woken

variable {env : Env} {D : Time → Nat → Prop} {w : WakeWorld} {t : World}

theorem initial (env : Env) (D : Time → Nat → Prop) : Woken env D {} where
  valid := WellStacked.initial env
  past := fun _ hf => absurd hf List.not_mem_nil
  timed := fun _ _ _ _ hra => absurd hra List.not_mem_nil

theorem mono (h : Woken env D w) {D' : Time → Nat → Prop}
    (hD : ∀ p n, n < w.world.tick → D p n → D' p n) : Woken env D' w :=
  { h with
    timed := fun zone hzone axis ra hra ttl httl hne =>
      (h.timed zone hzone axis ra hra ttl httl hne).imp_right fun ⟨p, n, hp, hn, hd, harmed⟩ =>
        ⟨p, n, hp, hn, hD p n hn hd, harmed⟩ }

theorem of_sublist (h : Woken env D w)
    (hsub : ∀ zone axis, (t.stackAt zone axis).Sublist (w.world.stackAt zone axis))
    (htimers : t.ttlTimers = w.world.ttlTimers) (htick : w.world.tick ≤ t.tick) :
    Woken env D { w with world := t } where
  valid := fun zone axis => (h.valid zone axis).sublist (hsub zone axis)
  past := fun f hf => (h.past f hf).imp fun _ hn => ⟨lt_of_lt_of_le hn.1 htick, hn.2⟩
  timed := fun zone hzone axis ra hra ttl httl hne => by
    rcases h.timed zone hzone axis ra ((hsub zone axis).subset hra) ttl httl hne with
      ⟨n, hn, hexpired⟩ | ⟨p, n, hp, hn, hd, hlookup, hran⟩
    · exact Or.inl ⟨n, lt_of_lt_of_le hn htick, hexpired⟩
    · exact Or.inr ⟨p, n, hp, lt_of_lt_of_le hn htick, hd, htimers ▸ hlookup, hran⟩

theorem push (hclock : StrictMono env.clock) (h : Woken env D w) {zone : String}
    (hzone : Slashless zone) (axis : AxisKind) {act : Activation} {start : Nat}
    (hstart : start < w.world.tick) (hpushed : act.pushedAt = some (env.clock start))
    (hD : ∀ n, start < n → D (env.clock start) n) :
    Woken env D { w with world := (pushActivation env zone axis (some act) w.world).2 } := by
  have htimers := pushActivation_ttlTimers env zone axis act w.world
  have hsub := reconcilerStep_sublist env w.world (.push zone axis (some act))
  have hvalid := h.valid.step (.push zone axis (some act))
  have hframe := pushActivation_frame env zone axis (some act) w.world
  have htick : acceptedEntry env zone axis act ≠ none →
      w.world.tick < (pushActivation env zone axis (some act) w.world).2.tick := by
    rcases pushActivation_stackAt env zone axis act w.world with
      ⟨hrejected, -⟩ | ⟨_, n, -, hn, hn', -⟩
    · intro haccepted
      refine absurd ?_ haccepted
      unfold acceptedEntry
      rcases hrejected with h | h | h | h <;> simp [h]
    · exact fun _ => lt_of_le_of_lt hn hn'
  simp only [reconcilerStep, ReconcilerEvent.effect] at hsub hvalid
  generalize (pushActivation env zone axis (some act) w.world).2 = t at *
  refine ⟨hvalid, fun f hf => (h.past f hf).imp fun _ hn => ⟨lt_of_lt_of_le hn.1 hframe.tick, hn.2⟩,
    fun z hz a ra hra ttl httl hne => ?_⟩
  -- an entry that is not the one pushed keeps its timer
  have hkept : ra ∈ w.world.stackAt z a →
      (∀ entry, acceptedEntry env zone axis act = some entry →
        timerKey z a ra.id ≠ timerKey zone axis entry.id) →
      Timed env D { w with world := t } z a ra ttl := by
    intro hmem hother
    rcases h.timed z hz a ra hmem ttl httl hne with
      ⟨n, hn, hexpired⟩ | ⟨p, n, hp, hn, hd, hlookup, hran⟩
    · exact Or.inl ⟨n, lt_of_lt_of_le hn hframe.tick, hexpired⟩
    · refine Or.inr ⟨p, n, hp, lt_of_lt_of_le hn hframe.tick, hd, ?_, hran⟩
      show t.ttlTimers.lookup _ = _
      rw [htimers, ← hlookup]
      split
      · rename_i entry _ haccepted _
        split
        · exact AList.lookup_insert_ne (hother entry haccepted)
        · rfl
      · rfl
  have hmem := (hsub z a).subset hra
  by_cases hsame : zone = z ∧ axis = a
  · obtain ⟨rfl, rfl⟩ := hsame
    rw [if_pos ⟨rfl, rfl⟩] at hmem
    cases haccepted : acceptedEntry env zone axis act with
    | none =>
      rw [haccepted] at hmem
      exact hkept hmem fun entry hentry => by simp [haccepted] at hentry
    | some entry =>
      rw [haccepted] at hmem
      obtain ⟨comp, -, rfl⟩ := acceptedEntry_eq_some haccepted
      rcases (AxisStack.mem_push (h.valid zone axis).distinct ra).mp hmem with ⟨hold, hid⟩ | rfl
      · refine hkept hold fun entry hentry hkey => hid ?_
        rw [haccepted, Option.some.injEq] at hentry
        rw [(timerKey_inj hz hz hkey).2.2, hentry]
      · obtain ⟨hid, hat, httl'⟩ := AxisStack.pushedEntry_timing (w.world.stackAt zone axis)
          (ZonePolicy.resolve comp act)
        have hact : act.ttl = some ttl := httl'.symm.trans httl
        have hnow := htick (by simp [haccepted])
        by_cases hpos : 0 < ttl
        · -- the timer is due after every timer that has run
          refine Or.inr ⟨_, w.world.tick, hat.trans hpushed, hnow, hD _ hstart, ?_, fun hran => ?_⟩
          · show t.ttlTimers.lookup _ = _
            rw [htimers, haccepted, hact, hid]
            simp only [if_pos hpos]
            exact AList.lookup_insert _
          · obtain ⟨n, hn, hdue⟩ := h.past _ hran
            exact absurd hdue (not_le.mpr (lt_trans (hclock hn) (lt_add_of_pos_right _ hpos)))
        · have hneg : ttl < 0 := lt_of_le_of_ne (not_lt.mp hpos) hne
          refine Or.inl ⟨w.world.tick, hnow, RuntimeActivation.expired_of_lt (hat.trans hpushed)
            httl hne ?_⟩
          exact lt_trans (add_lt_of_neg_right _ hneg) (hclock hstart)
  · rw [if_neg hsame] at hmem
    refine hkept hmem fun entry _ hkey => hsame ?_
    obtain ⟨hzone', haxis, -⟩ := timerKey_inj hz hzone hkey
    exact ⟨hzone'.symm, haxis.symm⟩

theorem of_pushRun (hclock : StrictMono env.clock) (h : Woken env D w) {zone : String}
    (hzone : Slashless zone) {admitted : Activation → Prop}
    (hadmitted : ∀ act, admitted act → act.pushedAt = some (env.clock w.world.tick))
    (hrun : PushRun env zone admitted w.world.next t) :
    Woken env (fun p n => D p n ∨ p = env.clock w.world.tick ∧ w.world.tick < n ∧ n < t.tick)
      { w with world := t } := by
  let during : Time → Nat → Prop := fun p n =>
    D p n ∨ p = env.clock w.world.tick ∧ w.world.tick < n
  have hnext : ∀ u : World, Woken env during { w with world := u } →
      Woken env during { w with world := u.next } := fun u hu =>
    hu.of_sublist (fun _ _ => List.Sublist.refl _) rfl (Nat.le_succ _)
  let inv : World → Prop := fun u => w.world.tick < u.tick ∧ Woken env during { w with world := u }
  have hpushes : inv t := by
    refine hrun.invariant ?_ ?_ ?_
    · exact fun u hu => ⟨Nat.lt_succ_of_lt hu.1, hnext u hu.2⟩
    · rintro u axis act hact ⟨hu, hinv⟩
      exact ⟨lt_of_lt_of_le hu (pushActivation_frame env zone axis (some act) u).tick,
        hinv.push hclock hzone axis hu (hadmitted act hact) fun n hn => Or.inr ⟨rfl, hn⟩⟩
    · exact ⟨Nat.lt_succ_self _, hnext _ (h.mono fun _ _ _ => Or.inl)⟩
  exact hpushes.2.mono fun p n hn hd => hd.imp_right fun hnew => ⟨hnew.1, hnew.2, hn⟩

theorem fire (hD : ∀ p n, D p n → p < env.clock n) (h : Woken env D w) {key : String}
    {timer : ReconcileTimer}
    (hdue : timer.due ≤ env.clock w.world.tick) :
    Woken env D
      { world := (reconcileZone env timer.zone (env.clock w.world.tick) w.world.next).2
        ran := (key, timer) :: w.ran } := by
  have hframe := reconcileZone_frame env timer.zone (env.clock w.world.tick) w.world.next
  have hnow : w.world.tick <
      (reconcileZone env timer.zone (env.clock w.world.tick) w.world.next).2.tick :=
    lt_of_lt_of_le (Nat.lt_succ_self _) hframe.tick
  have hsame := h.of_sublist (fun zone axis => reconcilerStep_sublist env w.world.next
    (.reconcile timer.zone (env.clock w.world.tick)) zone axis)
    (reconcileZone_ttlTimers env timer.zone _ w.world.next) hnow.le
  simp only [reconcilerStep] at hsame
  generalize (reconcileZone env timer.zone (env.clock w.world.tick) w.world.next).2 = t at *
  refine ⟨hsame.valid, ?_, fun zone hzone axis ra hra ttl httl hne => ?_⟩
  · intro f hf
    rcases List.mem_cons.mp hf with rfl | hf
    · exact ⟨w.world.tick, hnow, hdue⟩
    · exact hsame.past f hf
  · rcases hsame.timed zone hzone axis ra hra ttl httl hne with
      hexpired | ⟨p, n, hp, hn, hd, hlookup, hran⟩
    · exact Or.inl hexpired
    · by_cases hthis : (timerKey zone axis ra.id, ⟨zone, env.clock n + ttl⟩) = (key, timer)
      · -- the timer that ran is due after the entry's deadline
        refine Or.inl ⟨w.world.tick, hnow, RuntimeActivation.expired_of_lt hp httl hne ?_⟩
        rw [← (Prod.mk.inj hthis).2] at hdue
        exact lt_of_lt_of_le (add_lt_add_left (hD p n hd) ttl) hdue
      · exact Or.inr ⟨p, n, hp, hn, hd, hlookup, by simp [hthis, hran]⟩

theorem step (hclock : StrictMono env.clock) (hD : ∀ p n, D p n → p < env.clock n)
    (h : Woken env D w) {op : WakeOp} (hop : op.Slashless) :
    Woken env (fun p n => D p n ∨
        p = env.clock w.world.tick ∧ w.world.tick < n ∧ n < (op.step env w).world.tick)
      (op.step env w) := by
  cases op with
  | bridge e =>
    cases e with
    | evaluate condName rem =>
      refine h.of_pushRun hclock hop ?_
        (bridgeReconciledRemediation_pushRun env condName rem w.world)
      rintro act ⟨priority, c, rfl, -⟩
      rfl
    | activate condName rem src =>
      refine h.of_pushRun hclock hop ?_
        (bridgeImperativeActivate_pushRun env condName rem src w.world)
      rintro act ⟨c, rfl⟩
      rfl
    | remove zone kind name =>
      exact (h.of_sublist (removeActivation_sublist env zone kind name w.world)
        (removeActivation_ttlTimers env zone kind name w.world)
        (removeActivation_frame env zone kind name w.world).tick).mono fun _ _ _ => Or.inl
    | reconcile zone now =>
      exact (h.of_sublist (reconcilerStep_sublist env w.world (.reconcile zone now))
        (reconcileZone_ttlTimers env zone now w.world)
        (reconcileZone_frame env zone now w.world).tick).mono fun _ _ _ => Or.inl
  | push zone axis act =>
    let admitted : Activation → Prop := fun act => act.pushedAt = some (env.clock w.world.tick)
    have hrun : PushRun env zone admitted w.world.next _ :=
      .push .refl axis { act with pushedAt := some (env.clock w.world.tick) } rfl
    exact h.of_pushRun hclock hop (fun _ hact => hact) hrun
  | fire key =>
    refine Woken.mono ?_ fun _ _ _ => Or.inl
    dsimp only [WakeOp.step]
    split
    · exact h
    · split
      · rename_i hdue
        exact h.fire hD hdue.2
      · exact h

end Woken

/-! ## Runs -/

/-- `n` is a later clock reading of the operation whose first one is `p`. -/
def ReadBy (env : Env) (ops : List WakeOp) (p : Time) (n : Nat) : Prop :=
  ∃ first op second, ops = first ++ op :: second ∧
    let w := run (WakeOp.step env) {} first
    p = env.clock w.world.tick ∧ w.world.tick < n ∧ n < (op.step env w).world.tick

theorem woken_run {env : Env} (hclock : StrictMono env.clock) (ops : List WakeOp)
    (hops : ∀ op ∈ ops, op.Slashless) :
    Woken env (ReadBy env ops) (run (WakeOp.step env) {} ops) := by
  induction ops using List.reverseRecOn with
  | nil => exact Woken.initial env _
  | append_singleton ops op ih =>
    have hold := ih fun o ho => hops o (List.mem_append_left _ ho)
    have hread : ∀ p n, ReadBy env ops p n → p < env.clock n := by
      rintro p n ⟨first, o, second, -, rfl, hn, -⟩
      exact hclock hn
    rw [run_append, run_cons, run_nil]
    refine (hold.step hclock hread (hops op (by simp))).mono fun p n _ hd => ?_
    rcases hd with ⟨first, o, second, rfl, hd⟩ | hd
    · exact ⟨first, o, second ++ [op], by simp, hd⟩
    · exact ⟨ops, op, [], rfl, hd⟩

/-- **Every deadline has its wakeup.**  After any operations, an entry with a TTL that has not
expired has a timer that has not run, due after its deadline by no more than the operation took
that pushed it.  From then on it contributes to no target. -/
theorem ttl_wakeups_complete (env : Env) (hclock : StrictMono env.clock) (ops : List WakeOp)
    (hops : ∀ op ∈ ops, op.Slashless) (zone : String) (hzone : Slashless zone) (axis : AxisKind)
    (ra : RuntimeActivation) (ttl : Duration) (now : Time) :
    let w := run (WakeOp.step env) {} ops
    (∀ n < w.world.tick, env.clock n ≤ now) → ra ∈ w.world.stackAt zone axis →
      ra.expired now = false → ra.ttl = some ttl → ttl ≠ 0 →
      ∃ timer first op second, w.Armed (timerKey zone axis ra.id) timer ∧ timer.zone = zone ∧
        ops = first ++ op :: second ∧
        (let before := run (WakeOp.step env) {} first
          let deadline := env.clock before.world.tick + ttl
          ra.pushedAt = some (env.clock before.world.tick) ∧ deadline < timer.due ∧
            timer.due ≤ deadline + op.duration env before) ∧
        ∀ later, timer.due ≤ later → ∀ policy : ZonePolicy,
          (axis, ra) ∉ (policy.removeExpired later).activeContributorsByAxis later := by
  intro w hnow hra hlive httl hne
  rcases (woken_run hclock ops hops).timed zone hzone axis ra hra ttl httl hne with
    ⟨n, hn, hexpired⟩ | ⟨p, n, hp, -, ⟨first, op, second, hsplit, rfl, hfirst, hlast⟩, harmed⟩
  · rw [RuntimeActivation.expired_mono (hnow n hn) hexpired] at hlive
    cases hlive
  · have hdeadline := add_lt_add_left (hclock hfirst) ttl
    refine ⟨_, first, op, second, harmed, rfl, hsplit, ⟨hp, hdeadline, ?_⟩, ?_⟩
    · have hle : env.clock n ≤
          env.clock ((op.step env (run (WakeOp.step env) {} first)).world.tick - 1) :=
        hclock.monotone (by omega)
      have hadd : ∀ a b c d : Int, a ≤ c → a + d ≤ b + d + (c - b) := by omega
      exact hadd _ _ _ _ hle
    · intro later hlater policy hmem
      rw [ZonePolicy.mem_activeContributorsByAxis_iff] at hmem
      have hlive := (AxisStack.live_of_top hmem).2
      rw [RuntimeActivation.expired_of_lt hp httl hne (lt_of_lt_of_le hdeadline hlater)] at hlive
      cases hlive

def porchOps : List WakeOp :=
  [.push "porch" .state (porchLamp none), .push "porch" .state { porchLamp none with ttl := some 20 }]

theorem porch_wakeup :
    let w := run (WakeOp.step switchEnv) {} porchOps
    (w.world.stackAt "porch" .state).map (·.pushedAt) = [some 6] ∧
      ∃ timer, w.Armed (timerKey "porch" .state (activationID .manual "operator")) timer ∧
        26 < timer.due := by
  intro w
  let ra := ZonePolicy.resolve staticComputer { porchLamp (some 6) with ttl := some 20 }
  have hstack : w.world.stackAt "porch" .state = [ra] := rfl
  have hslash : ∀ op ∈ porchOps, op.Slashless := by
    intro op hop
    simp only [porchOps, List.mem_cons, List.not_mem_nil, or_false] at hop
    rcases hop with rfl | rfl
    · exact (by decide : '/' ∉ "porch".toList)
    · exact (by decide : '/' ∉ "porch".toList)
  have hclock : StrictMono switchEnv.clock := fun _ _ h => Int.ofNat_lt.mpr h
  have hnow : ∀ n < w.world.tick, switchEnv.clock n ≤ 20 := by
    intro n hn
    have htick : w.world.tick ≤ 20 := by decide
    exact Int.ofNat_le.mpr (le_of_lt (lt_of_lt_of_le hn htick))
  obtain ⟨timer, first, op, second, harmed, -, -, ⟨hpushed, hdue, -⟩, -⟩ :=
    ttl_wakeups_complete switchEnv hclock porchOps hslash "porch" (by decide : '/' ∉ "porch".toList)
      .state ra 20 20 hnow (by rw [hstack]; exact List.mem_singleton_self ra) rfl rfl (by decide)
  refine ⟨rfl, timer, harmed, ?_⟩
  rw [← Option.some.inj hpushed] at hdue
  exact hdue

end IotController.Conditioner
