/-
  Opening the network for new devices
  (`PermitJoin` in `modules/zigbeecoordinator/zigbeecoordinator.go`).

  The dongle is told to permit joining without a limit, and a timer of the coordinator is to
  close the window again.  A call holds the mutex from its beginning to its end and counts
  as one instant; so does the callback of a timer, which may have started long before it
  gets the mutex.  From its start on, `Stop` no longer reaches it.
-/
import IotController.Api.Condition
import IotController.Foundation.Run

namespace IotController.ZigbeeCoordinator

open Foundation Api

/-! ## State -/

/-- An open window: its timer, and when it opened. -/
structure Window where
  timer : Nat
  time : Time
  deriving DecidableEq

/-- The part of `ZigbeeCoordinator` that belongs to joining.  A timer is known by
its number. -/
structure Joining where
  now : Time
  permitJoinTimer : Option Nat := none
  permitJoinEnd : Option Time := none
  /-- the timers that have not started, with the times at which they are due -/
  armed : GoMap Nat Time := ∅
  /-- the callbacks that wait for the mutex, with the times at which they were due -/
  started : GoMap Nat Time := ∅
  nextTimer : Nat := 0
  /-- the window that the last successful command to the dongle opened, if it was
  not a command to close -/
  opened : Option Window := none

namespace Joining

def stopTimer (s : Joining) : Joining :=
  { s with
    armed :=
      match s.permitJoinTimer with
      | some id => s.armed.erase id
      | none => s.armed
    permitJoinTimer := none
    permitJoinEnd := none }

def openFor (durationSeconds : Int) (s : Joining) : Joining :=
  let endTime := s.now + durationSeconds * second
  { s with
    permitJoinTimer := some s.nextTimer
    permitJoinEnd := some endTime
    armed := s.armed.insert s.nextTimer endTime
    nextTimer := s.nextTimer + 1
    opened := some ⟨s.nextTimer, s.now⟩ }

/-- `PermitJoin` with its error; `answer` is the dongle's, if the call gets that far. -/
def permitJoin (answer : Option String) (durationSeconds : Int) (s : Joining) :
    Joining × Option String :=
  let s := s.stopTimer
  if 0 < durationSeconds then
    if 254 < durationSeconds then
      (s, some ("cannot permit join for more than 254 seconds, got " ++ durationSeconds.repr))
    else
      match answer with
      | some err => (s, some ("enabling permit join: " ++ err))
      | none => (s.openFor durationSeconds, none)
  else
    match answer with
    | some err => (s, some ("disabling permit join: " ++ err))
    | none => ({ s with opened := none }, none)

def autoDisable (answer : Option String) (id : Nat) (s : Joining) : Joining :=
  { s with
    started := s.started.erase id
    opened := if answer = none then none else s.opened
    permitJoinTimer := none
    permitJoinEnd := none }

end Joining

/-! ## Steps -/

/-- A call, a timer or its callback. -/
inductive JoinAction where
  | tick (d : Nat)
  | permitJoin (answer : Option String) (durationSeconds : Int)
  | expire (id : Nat)
  | callback (answer : Option String) (id : Nat)

/-- One action; an action that is not possible changes nothing. -/
def joinStep (s : Joining) : JoinAction → Joining
  | .tick d => { s with now := s.now + d }
  | .permitJoin answer durationSeconds => (s.permitJoin answer durationSeconds).1
  | .expire id =>
    match s.armed.lookup id with
    | none => s
    | some due =>
      if due ≤ s.now then
        { s with armed := s.armed.erase id, started := s.started.insert id due }
      else s
  | .callback answer id =>
    match s.started.lookup id with
    | none => s
    | some _ => s.autoDisable answer id

def maxJoin : Duration := 254 * second

/-- An open window has a timer due in time. -/
def Guarded (s : Joining) : Prop :=
  ∀ w, s.opened = some w →
    ∃ id due, (s.armed.lookup id = some due ∨ s.started.lookup id = some due) ∧
      due ≤ w.time + maxJoin

/-- The callback leaves a later timer registered and its window open. -/
def SparesLater (s : Joining) : JoinAction → Prop
  | .callback answer id =>
    s.started.lookup id ≠ none →
      (∀ later, s.permitJoinTimer = some later → id < later →
          (joinStep s (.callback answer id)).permitJoinTimer = some later) ∧
        ∀ w, s.opened = some w → id < w.timer → (joinStep s (.callback answer id)).opened = some w
  | _ => True

/-- No later timer is registered, and no window of one is open if the dongle accepts. -/
def NoneLater (s : Joining) (answer : Option String) (id : Nat) : Prop :=
  (∀ later, s.permitJoinTimer = some later → later ≤ id) ∧
    (answer = none → ∀ w, s.opened = some w → w.timer ≤ id)

/-- The open window has a started callback, other than `id`, that is due in time. -/
def Covered (s : Joining) (id : Option Nat) : Prop :=
  ∀ w, s.opened = some w →
    ∃ other due, some other ≠ id ∧ s.started.lookup other = some due ∧ due ≤ w.time + maxJoin

/-- A call is valid and accepted, or leaves no window open; a callback meets no later window,
and is accepted or leaves none open. -/
def Careful (s : Joining) : JoinAction → Prop
  | .permitJoin answer durationSeconds =>
    (answer = none ∧ durationSeconds ≤ 254) ∨ Covered s none
  | .callback answer id =>
    s.started.lookup id ≠ none → NoneLater s answer id ∧ (answer = none ∨ Covered s (some id))
  | _ => True

/-! ## What holds as long as no later window is touched -/

/-- The timers of a run in which callbacks spare later windows. -/
structure Orderly (s : Joining) : Prop where
  registered : ∀ id due, s.armed.lookup id = some due → s.permitJoinTimer = some id
  newest : ∀ id, s.permitJoinTimer = some id → id + 1 = s.nextTimer
  opened : ∀ w, s.opened = some w → w.timer + 1 = s.nextTimer
  started : ∀ id due, s.started.lookup id = some due → id < s.nextTimer ∧ s.armed.lookup id = none

theorem permitJoin_cases (answer : Option String) (d : Int) (s : Joining) :
    (¬ (answer = none ∧ d ≤ 254) ∧ (s.permitJoin answer d).1 = s.stopTimer) ∨
      (answer = none ∧ 0 < d ∧ d ≤ 254 ∧ (s.permitJoin answer d).1 = s.stopTimer.openFor d) ∨
      (answer = none ∧ d ≤ 0 ∧ (s.permitJoin answer d).1 = { s.stopTimer with opened := none }) := by
  unfold Joining.permitJoin
  dsimp only
  split_ifs with hpos hlong
  · exact Or.inl ⟨fun h => absurd hlong (not_lt.mpr h.2), rfl⟩
  · cases answer with
    | some => exact Or.inl ⟨fun h => (by cases h.1), rfl⟩
    | none => exact Or.inr (Or.inl ⟨rfl, hpos, not_lt.mp hlong, rfl⟩)
  · cases answer with
    | some => exact Or.inl ⟨fun h => (by cases h.1), rfl⟩
    | none => exact Or.inr (Or.inr ⟨rfl, not_lt.mp hpos, rfl⟩)

theorem joinStep_callback {s : Joining} {id : Nat} (h : s.started.lookup id ≠ none)
    (answer : Option String) : joinStep s (.callback answer id) = s.autoDisable answer id := by
  obtain ⟨due, hdue⟩ := Option.ne_none_iff_exists'.mp h
  simp only [joinStep, hdue]

theorem sparesLater_iff {s : Joining} {id : Nat} (h : s.started.lookup id ≠ none)
    (answer : Option String) : SparesLater s (.callback answer id) ↔ NoneLater s answer id := by
  have htimer : (s.autoDisable answer id).permitJoinTimer = none := rfl
  have hopened : (s.autoDisable answer id).opened = if answer = none then none else s.opened := rfl
  unfold SparesLater NoneLater
  dsimp only
  rw [joinStep_callback h, htimer, hopened]
  constructor
  · intro hspares
    refine ⟨fun later hlater => ?_, fun hanswer w hw => ?_⟩
    · by_contra hlt
      cases (hspares h).1 later hlater (not_le.mp hlt)
    · by_contra hlt
      have hkept := (hspares h).2 w hw (not_le.mp hlt)
      rw [if_pos hanswer] at hkept
      cases hkept
  · rintro ⟨hregistered, hclosed⟩ -
    refine ⟨fun later hlater hlt => absurd hlt (not_lt.mpr (hregistered later hlater)),
      fun w hw hlt => ?_⟩
    rw [if_neg fun hanswer => absurd hlt (not_lt.mpr (hclosed hanswer w hw))]
    exact hw

namespace Orderly

variable {s : Joining}

theorem start (now : Time) : Orderly { now := now } where
  registered id due h := by cases h
  newest id h := by cases h
  opened w h := by cases h
  started id due h := by cases h

section

variable (h : Orderly s)
include h

theorem armed_stopTimer (id : Nat) : s.stopTimer.armed.lookup id = none := by
  unfold Joining.stopTimer
  cases hlookup : s.armed.lookup id with
  | none =>
    cases s.permitJoinTimer with
    | none => exact hlookup
    | some other =>
      show (s.armed.erase other).lookup id = none
      rw [GoMap.lookup_erase_eq, hlookup, ite_self]
  | some due =>
    rw [h.registered id due hlookup]
    show (s.armed.erase id).lookup id = none
    rw [GoMap.lookup_erase_eq, if_pos rfl]

theorem stopTimer : Orderly s.stopTimer where
  registered id due hid := by rw [h.armed_stopTimer] at hid; cases hid
  newest id hid := by cases hid
  opened := h.opened
  started id due hid := ⟨(h.started id due hid).1, h.armed_stopTimer id⟩

theorem permitJoin (answer : Option String) (d : Int) :
    Orderly (s.permitJoin answer d).1 := by
  have hstop := h.stopTimer
  rcases permitJoin_cases answer d s with ⟨-, heq⟩ | ⟨-, -, -, heq⟩ | ⟨-, -, heq⟩
  · rw [heq]
    exact hstop
  · rw [heq]
    constructor
    · intro id due hid
      rw [show (s.stopTimer.openFor d).armed.lookup id = _ from GoMap.lookup_insert_eq _ _ _ _,
        h.armed_stopTimer] at hid
      split_ifs at hid with hnew
      rw [hnew]
      rfl
    · intro id hid
      cases hid
      rfl
    · intro w hw
      cases hw
      rfl
    · intro id due hid
      obtain ⟨hlt, hnone⟩ := hstop.started id due hid
      refine ⟨Nat.lt_succ_of_lt hlt, ?_⟩
      rw [show (s.stopTimer.openFor d).armed.lookup id = _ from GoMap.lookup_insert_eq _ _ _ _,
        if_neg (Nat.ne_of_lt hlt)]
      exact hnone
  · rw [heq]
    exact
      { registered := hstop.registered
        newest := hstop.newest
        opened := fun w hw => by cases hw
        started := hstop.started }

theorem expire (id : Nat) : Orderly (joinStep s (.expire id)) := by
  unfold joinStep
  dsimp only
  split
  · exact h
  · rename_i due hdue
    split_ifs
    · constructor
      · intro other due' hother
        rw [GoMap.lookup_erase_eq] at hother
        split_ifs at hother
        exact h.registered other due' hother
      · exact h.newest
      · exact h.opened
      · intro other due' hother
        rw [GoMap.lookup_insert_eq] at hother
        rw [GoMap.lookup_erase_eq]
        split_ifs at hother with hsame
        · rw [if_pos hsame, hsame, ← h.newest id (h.registered id due hdue)]
          exact ⟨Nat.lt_succ_self id, rfl⟩
        · rw [if_neg hsame]
          exact h.started other due' hother
    · exact h

theorem armed_of_noneLater {answer : Option String} {id : Nat}
    (hstarted : s.started.lookup id ≠ none) (hnone : NoneLater s answer id) (other : Nat) :
    s.armed.lookup other = none := by
  obtain ⟨due, hdue⟩ := Option.ne_none_iff_exists'.mp hstarted
  obtain ⟨hlt, hid⟩ := h.started id due hdue
  by_contra hne
  obtain ⟨due', hdue'⟩ := Option.ne_none_iff_exists'.mp hne
  have hregistered := h.registered other due' hdue'
  have hle := hnone.1 other hregistered
  have hnewest := h.newest other hregistered
  obtain rfl : other = id := by omega
  exact hne hid

theorem callback {answer : Option String} {id : Nat}
    (hspares : SparesLater s (.callback answer id)) :
    Orderly (joinStep s (.callback answer id)) := by
  unfold joinStep
  dsimp only
  split
  · exact h
  · rename_i due hdue
    have hstarted : s.started.lookup id ≠ none := by simp [hdue]
    have harmed := h.armed_of_noneLater hstarted ((sparesLater_iff hstarted answer).mp hspares)
    constructor
    · intro other due' hother
      rw [show (s.autoDisable answer id).armed = s.armed from rfl, harmed] at hother
      cases hother
    · intro other hother
      cases hother
    · intro w hw
      refine h.opened w ?_
      by_contra hne
      have hopened : (s.autoDisable answer id).opened = if answer = none then none else s.opened :=
        rfl
      rw [hopened] at hw
      split_ifs at hw
      exact hne hw
    · intro other due' hother
      rw [show (s.autoDisable answer id).started.lookup other = _ from
        GoMap.lookup_erase_eq _ _ _] at hother
      split_ifs at hother
      exact h.started other due' hother

theorem step {a : JoinAction} (hspares : SparesLater s a) :
    Orderly (joinStep s a) := by
  cases a with
  | tick => exact ⟨h.registered, h.newest, h.opened, h.started⟩
  | permitJoin answer d => exact h.permitJoin answer d
  | expire id => exact h.expire id
  | callback => exact h.callback hspares

end

end Orderly

/-! ## Steps that keep the window guarded -/

section Guarding

variable {s : Joining}

theorem guarded_stopTimer_iff (h : Orderly s) : Guarded s.stopTimer ↔ Covered s none := by
  constructor
  · intro hguarded w hw
    obtain ⟨id, due, harmed | hstarted, hdue⟩ := hguarded w hw
    · rw [h.armed_stopTimer] at harmed
      cases harmed
    · exact ⟨id, due, by simp, hstarted, hdue⟩
  · intro hcovered w hw
    obtain ⟨id, due, -, hstarted, hdue⟩ := hcovered w hw
    exact ⟨id, due, Or.inr hstarted, hdue⟩

theorem guarded_openFor (s : Joining) {d : Int} (hd : d ≤ 254) : Guarded (s.openFor d) := by
  intro w hw
  cases hw
  refine ⟨s.nextTimer, s.now + d * second, Or.inl ?_, ?_⟩
  · show (s.armed.insert _ _).lookup _ = _
    rw [GoMap.lookup_insert_eq, if_pos rfl]
  · have hlength : d * second ≤ maxJoin := by
      unfold maxJoin second
      omega
    exact add_le_add_right hlength s.now

theorem guarded_permitJoin_iff (h : Orderly s) (answer : Option String) (d : Int) :
    Guarded (s.permitJoin answer d).1 ↔ Careful s (.permitJoin answer d) := by
  show _ ↔ (answer = none ∧ d ≤ 254) ∨ Covered s none
  rcases permitJoin_cases answer d s with ⟨hfailed, heq⟩ | ⟨hok, -, hd, heq⟩ | ⟨hok, hd, heq⟩
  · rw [heq, guarded_stopTimer_iff h]
    exact ⟨Or.inr, fun h => h.resolve_left hfailed⟩
  · rw [heq]
    exact iff_of_true (guarded_openFor _ hd) (Or.inl ⟨hok, hd⟩)
  · rw [heq]
    refine iff_of_true (fun w hw => by cases hw) (Or.inl ⟨hok, hd.trans (by norm_num)⟩)

theorem guarded_expire (h : Orderly s) (hguarded : Guarded s) (id : Nat) :
    Guarded (joinStep s (.expire id)) := by
  unfold joinStep
  dsimp only
  split
  · exact hguarded
  · rename_i due hdue
    split_ifs
    · intro w hw
      obtain ⟨other, due', hpending, hle⟩ := hguarded w hw
      by_cases hsame : other = id
      · obtain rfl := hsame
        have hlookup : s.armed.lookup other = some due' := by
          refine hpending.resolve_right fun hstarted => ?_
          rw [(h.started other due' hstarted).2] at hdue
          cases hdue
        refine ⟨other, due', Or.inr ?_, hle⟩
        rw [GoMap.lookup_insert_eq, if_pos rfl, ← hdue, hlookup]
      · refine ⟨other, due', ?_, hle⟩
        rw [GoMap.lookup_insert_eq, GoMap.lookup_erase_eq, if_neg hsame, if_neg hsame]
        exact hpending
    · exact hguarded

theorem guarded_autoDisable_iff {answer : Option String} {id : Nat}
    (harmed : ∀ other, s.armed.lookup other = none) :
    Guarded (s.autoDisable answer id) ↔ answer = none ∨ Covered s (some id) := by
  have hopened : (s.autoDisable answer id).opened = if answer = none then none else s.opened := rfl
  have hstarted : ∀ other, (s.autoDisable answer id).started.lookup other =
      if other = id then none else s.started.lookup other :=
    fun other => GoMap.lookup_erase_eq _ _ _
  by_cases hanswer : answer = none
  · refine iff_of_true (fun w hw => ?_) (Or.inl hanswer)
    rw [hopened, if_pos hanswer] at hw
    cases hw
  · rw [if_neg hanswer] at hopened
    refine Iff.trans ?_ ⟨Or.inr, fun h => h.resolve_left hanswer⟩
    constructor
    · intro hguarded w hw
      obtain ⟨other, due, hpending | hpending, hdue⟩ := hguarded w (hopened.trans hw)
      · rw [show (s.autoDisable answer id).armed = s.armed from rfl, harmed] at hpending
        cases hpending
      · rw [hstarted] at hpending
        split_ifs at hpending with hne
        exact ⟨other, due, by simpa using hne, hpending, hdue⟩
    · intro hcovered w hw
      obtain ⟨other, due, hne, hpending, hdue⟩ := hcovered w (hopened.symm.trans hw)
      refine ⟨other, due, Or.inr ?_, hdue⟩
      rw [hstarted, if_neg (by simpa using hne)]
      exact hpending

/-- The action leaves an open window guarded and spares later timers. -/
def JoinsSafely (s : Joining) (a : JoinAction) : Prop := Guarded (joinStep s a) ∧ SparesLater s a

theorem joinsSafely_iff_careful (h : Orderly s) (hguarded : Guarded s) (a : JoinAction) :
    JoinsSafely s a ↔ Careful s a := by
  unfold JoinsSafely
  cases a with
  | tick => exact iff_of_true ⟨hguarded, trivial⟩ trivial
  | permitJoin answer d =>
    exact (and_iff_left trivial).trans (guarded_permitJoin_iff h answer d)
  | expire id => exact iff_of_true ⟨guarded_expire h hguarded id, trivial⟩ trivial
  | callback answer id =>
    cases hlookup : s.started.lookup id with
    | none =>
      have hstep : joinStep s (.callback answer id) = s := by
        simp only [joinStep, hlookup]
      rw [hstep]
      exact iff_of_true ⟨hguarded, fun hne => absurd hlookup hne⟩ fun hne => absurd hlookup hne
    | some =>
      have hstarted : s.started.lookup id ≠ none := by simp [hlookup]
      rw [joinStep_callback hstarted, sparesLater_iff hstarted]
      constructor
      · rintro ⟨hafter, hnone⟩ -
        exact ⟨hnone, (guarded_autoDisable_iff (h.armed_of_noneLater hstarted hnone)).mp hafter⟩
      · intro hcareful
        obtain ⟨hnone, hclosed⟩ := hcareful hstarted
        exact ⟨(guarded_autoDisable_iff (h.armed_of_noneLater hstarted hnone)).mpr hclosed, hnone⟩

end Guarding

/-- **Is joining ever left open?**  An open window always has a timer due in time, and no
callback touches a later window, exactly when every step is careful. -/
theorem joining_closes_iff (now : Time) (actions : List JoinAction) :
    Along joinStep JoinsSafely { now := now } actions ↔
      Along joinStep Careful { now := now } actions := by
  have hexchange : ∀ s a, (Orderly s ∧ Guarded s) → (JoinsSafely s a ↔ Careful s a) :=
    fun s a h => joinsSafely_iff_careful h.1 h.2 a
  have hkeep : ∀ s a, (Orderly s ∧ Guarded s) → JoinsSafely s a →
      Orderly (joinStep s a) ∧ Guarded (joinStep s a) :=
    fun s a h hsafe => ⟨h.1.step hsafe.2, hsafe.1⟩
  refine along_iff_along hexchange hkeep ⟨Orderly.start now, fun w hw => ?_⟩ actions
  cases hw

/-- A call with a duration out of range leaves joining open for good.  A callback that waited
closes the second window and forgets its timer. -/
theorem join_left_open :
    ¬ Guarded (run joinStep { now := 0 } [.permitJoin none 60, .permitJoin none 300]) ∧
      ¬ Along joinStep SparesLater { now := 0 }
        [.permitJoin none 1, .tick 1000000000, .expire 0, .permitJoin none 200,
          .callback none 0] := by
  constructor
  · intro h
    obtain ⟨id, due, hpending, -⟩ := h ⟨0, 0⟩ rfl
    rcases hpending with hpending | hpending
    · cases hpending
    · cases hpending
  · rintro ⟨-, -, -, -, hspares, -⟩
    exact absurd ((hspares (by decide)).1 1 rfl (by decide)) (by decide)

end IotController.ZigbeeCoordinator
