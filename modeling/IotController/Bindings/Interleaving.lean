/-
  FindConditions calls and deferred callbacks side
  by side (`pkg/iot/bindings/match.go`).

  Every call and every callback is a thread.  Between two critical sections of the Matcher's
  lock anything may happen, so a thread is advanced one section, one clock reading or one
  List at a time, and an action of the system names the thread that moves.  A timer whose
  time has come starts its callback; from then on `Stop` no longer reaches it.

  The trace is kept with the newest observation first.
-/
import IotController.Bindings.Debounce

namespace IotController.Bindings

open Foundation Api

/-! ## Threads -/

/-- A callback of a timer that has started. -/
structure Job where
  id : Nat
  key : DebounceKey
  binding : String
  started : Time
  deriving DecidableEq

/-- Where a call or a callback stands. -/
inductive Thread where
  | idle
  | listing (property value : String) (d : Device)
  /-- `observeValue` has read the clock and waits for the lock -/
  | observing (property value : String) (d : Device) (bindings : List Binding) (now : Time)
  | looping (key : DebounceKey) (value : String) (results ws : List Candidate)
  /-- `debounceDispatch` has read the clock and waits for the lock -/
  | dispatching (key : DebounceKey) (value : String) (results : List Candidate) (w : Candidate)
      (rest : List Candidate) (now : Time)
  | scheduling (key : DebounceKey) (value : String) (results : List Candidate) (w : Candidate)
      (rest : List Candidate)
  | starting (job : Job)
  | relisting (job : Job) (value : String) (d : Device)
  /-- `debounceDispatch`, called by `fireDeferred`, waits for the lock -/
  | firing (job : Job) (value : String) (d : Device) (w : Candidate) (now : Time)
  deriving DecidableEq

/-- What the trace records. -/
inductive Observation where
  | opened (key : DebounceKey) (value : String) (time : Time)
  | dispatched (key : DebounceKey) (w : Candidate) (time : Time)
  | armed (key : DebounceKey) (binding : String) (id : Nat)
  | finished (job : Job)
  | returned (results : List Candidate)
  deriving DecidableEq

/-- The Matcher with its threads, and a trace of what they did. -/
structure System where
  now : Time
  matcher : Matcher := {}
  threads : Nat → Thread := fun _ => .idle
  trace : List Observation := []

def System.become (s : System) (i : Nat) (t : Thread) (m : Matcher) (seen : List Observation) :
    System :=
  { s with matcher := m, threads := Function.update s.threads i t, trace := seen ++ s.trace }

@[simp] theorem System.become_matcher (s : System) (i : Nat) (t : Thread) (m : Matcher)
    (seen : List Observation) : (s.become i t m seen).matcher = m := rfl

@[simp] theorem System.become_trace (s : System) (i : Nat) (t : Thread) (m : Matcher)
    (seen : List Observation) : (s.become i t m seen).trace = seen ++ s.trace := rfl

theorem System.forall_become {P : Thread → Prop} {s : System} {i : Nat} {t : Thread} {m : Matcher}
    {seen : List Observation} (hmoved : P t) (hothers : ∀ j, j ≠ i → P (s.threads j)) (j : Nat) :
    P ((s.become i t m seen).threads j) := by
  show P (Function.update s.threads i t j)
  rw [Function.update_apply]
  split
  · exact hmoved
  · rename_i h
    exact hothers j h

/-! ## Steps -/

/-- One step of the system. -/
inductive Action where
  | tick (d : Nat)
  | call (i : Nat) (ev : DeviceEvent)
  | list (i : Nat) (result : Option (List Binding))
  | advance (i : Nat)
  | expire (id i : Nat)

def openedBy (m : Matcher) (time : Time) (property value : String) (d : Device) :
    List Observation :=
  if m.recorded ⟨property, d.name⟩ = some value then []
  else [.opened ⟨property, d.name⟩ value time]

def dispatchedBy (m : Matcher) (time now : Time) (w : Candidate) (key : DebounceKey) :
    List Observation :=
  match m.debounce.lookup key with
  | none => []
  | some e => if dwellElapsed e now w then [.dispatched key w time] else []

def armedBy (st : Settings) (m : Matcher) (w : Candidate) (key : DebounceKey) :
    List Observation :=
  match m.debounce.lookup key with
  | none => []
  | some e => if arms st e w then [.armed key w.name m.nextTimer] else []

def System.listed (s : System) (i : Nat) (result : Option (List Binding)) : System :=
  match s.threads i, result with
  | .listing _ _ _, none => s.become i .idle s.matcher [.returned []]
  | .listing property value d, some bindings =>
    s.become i (.observing property value d bindings s.now) s.matcher []
  | .relisting job _ _, none => s.become i .idle s.matcher [.finished job]
  | .relisting job value d, some bindings =>
    match findDeferred bindings job.binding job.key.property value d with
    | none => s.become i .idle s.matcher [.finished job]
    | some w => s.become i (.firing job value d w s.now) s.matcher []
  | _, _ => s

/-- The thread's next section or reading of the clock. -/
def System.advance (st : Settings) (s : System) (i : Nat) : System :=
  match s.threads i with
  | .observing property value d bindings now =>
    s.become i (.looping ⟨property, d.name⟩ value [] (winners st.sort bindings property value d))
      (observeValue s.matcher now property value d) (openedBy s.matcher s.now property value d)
  | .looping _ _ results [] => s.become i .idle s.matcher [.returned results]
  | .looping key value results (w :: rest) =>
    if w.minDuration ≤ 0 then
      s.become i (.looping key value (results ++ [w]) rest) s.matcher []
    else s.become i (.dispatching key value results w rest s.now) s.matcher []
  | .dispatching key value results w rest now =>
    let (m, condition) := debounceDispatch s.matcher now w key
    s.become i
      (if condition = "" then .scheduling key value results w rest
        else .looping key value (results ++ [w]) rest)
      m (dispatchedBy s.matcher s.now now w key)
  | .scheduling key value results w rest =>
    s.become i (.looping key value results rest) (scheduleDeferred st s.matcher s.now w key)
      (armedBy st s.matcher w key)
  | .starting job =>
    match beginDeferred s.matcher job.key job.binding with
    | (m, none) => s.become i .idle m [.finished job]
    | (m, some (value, d)) => s.become i (.relisting job value d) m []
  | .firing job _ d w now =>
    s.become i .idle (debounceDispatch s.matcher now w ⟨job.key.property, d.name⟩).1
      (.finished job :: dispatchedBy s.matcher s.now now w ⟨job.key.property, d.name⟩)
  | _ => s

def System.expire (s : System) (id i : Nat) : System :=
  match s.matcher.armed.lookup id, s.threads i with
  | some t, .idle =>
    if t.due ≤ s.now then
      s.become i (.starting ⟨id, t.key, t.binding, s.now⟩)
        { s.matcher with armed := s.matcher.armed.erase id } []
    else s
  | _, _ => s

def System.call (s : System) (i : Nat) (ev : DeviceEvent) : System :=
  match s.threads i, ev.device with
  | .idle, some d => s.become i (.listing ev.property ev.value d) s.matcher []
  | _, _ => s

/-- One action; an action that is not possible changes nothing. -/
def step (st : Settings) (s : System) : Action → System
  | .tick d => { s with now := s.now + d }
  | .call i ev => s.call i ev
  | .list i result => s.listed i result
  | .advance i => s.advance st i
  | .expire id i => s.expire id i

def System.start (now : Time) : System where
  now := now

/-- What an action can do. -/
inductive Effect (st : Settings) (s : System) : Action → System → Prop where
  | stutter (a : Action) : Effect st s a s
  | tick (d : Nat) : Effect st s (.tick d) { s with now := s.now + d }
  | call (i : Nat) (ev : DeviceEvent) (d : Device) (hi : s.threads i = .idle)
      (hdevice : ev.device = some d) :
      Effect st s (.call i ev) (s.become i (.listing ev.property ev.value d) s.matcher [])
  | listFailed (i : Nat) (property value : String) (d : Device)
      (hi : s.threads i = .listing property value d) :
      Effect st s (.list i none) (s.become i .idle s.matcher [.returned []])
  | listed (i : Nat) (property value : String) (d : Device) (bindings : List Binding)
      (hi : s.threads i = .listing property value d) :
      Effect st s (.list i (some bindings))
        (s.become i (.observing property value d bindings s.now) s.matcher [])
  | relistFailed (i : Nat) (job : Job) (value : String) (d : Device)
      (hi : s.threads i = .relisting job value d) :
      Effect st s (.list i none) (s.become i .idle s.matcher [.finished job])
  | relistMissed (i : Nat) (job : Job) (value : String) (d : Device) (bindings : List Binding)
      (hi : s.threads i = .relisting job value d)
      (hfind : findDeferred bindings job.binding job.key.property value d = none) :
      Effect st s (.list i (some bindings)) (s.become i .idle s.matcher [.finished job])
  | relisted (i : Nat) (job : Job) (value : String) (d : Device) (bindings : List Binding)
      (w : Candidate) (hi : s.threads i = .relisting job value d)
      (hfind : findDeferred bindings job.binding job.key.property value d = some w) :
      Effect st s (.list i (some bindings)) (s.become i (.firing job value d w s.now) s.matcher [])
  | observe (i : Nat) (property value : String) (d : Device) (bindings : List Binding)
      (now : Time) (hi : s.threads i = .observing property value d bindings now) :
      Effect st s (.advance i)
        (s.become i
          (.looping ⟨property, d.name⟩ value [] (winners st.sort bindings property value d))
          (observeValue s.matcher now property value d) (openedBy s.matcher s.now property value d))
  | finish (i : Nat) (key : DebounceKey) (value : String) (results : List Candidate)
      (hi : s.threads i = .looping key value results []) :
      Effect st s (.advance i) (s.become i .idle s.matcher [.returned results])
  | immediate (i : Nat) (key : DebounceKey) (value : String) (results : List Candidate)
      (w : Candidate) (rest : List Candidate)
      (hi : s.threads i = .looping key value results (w :: rest)) (hw : w.minDuration ≤ 0) :
      Effect st s (.advance i) (s.become i (.looping key value (results ++ [w]) rest) s.matcher [])
  | read (i : Nat) (key : DebounceKey) (value : String) (results : List Candidate)
      (w : Candidate) (rest : List Candidate)
      (hi : s.threads i = .looping key value results (w :: rest)) (hw : 0 < w.minDuration) :
      Effect st s (.advance i)
        (s.become i (.dispatching key value results w rest s.now) s.matcher [])
  | dispatch (i : Nat) (key : DebounceKey) (value : String) (results : List Candidate)
      (w : Candidate) (rest : List Candidate) (now : Time) (t : Thread)
      (hi : s.threads i = .dispatching key value results w rest now)
      (ht : t = if (debounceDispatch s.matcher now w key).2 = ""
        then .scheduling key value results w rest else .looping key value (results ++ [w]) rest) :
      Effect st s (.advance i)
        (s.become i t (debounceDispatch s.matcher now w key).1
          (dispatchedBy s.matcher s.now now w key))
  | schedule (i : Nat) (key : DebounceKey) (value : String) (results : List Candidate)
      (w : Candidate) (rest : List Candidate)
      (hi : s.threads i = .scheduling key value results w rest) :
      Effect st s (.advance i)
        (s.become i (.looping key value results rest) (scheduleDeferred st s.matcher s.now w key)
          (armedBy st s.matcher w key))
  | beginDone (i : Nat) (job : Job) (hi : s.threads i = .starting job)
      (hbegin : (beginDeferred s.matcher job.key job.binding).2 = none) :
      Effect st s (.advance i)
        (s.become i .idle (beginDeferred s.matcher job.key job.binding).1 [.finished job])
  | «begin» (i : Nat) (job : Job) (value : String) (d : Device) (hi : s.threads i = .starting job)
      (hbegin : (beginDeferred s.matcher job.key job.binding).2 = some (value, d)) :
      Effect st s (.advance i)
        (s.become i (.relisting job value d) (beginDeferred s.matcher job.key job.binding).1 [])
  | fire (i : Nat) (job : Job) (value : String) (d : Device) (w : Candidate) (now : Time)
      (hi : s.threads i = .firing job value d w now) :
      Effect st s (.advance i)
        (s.become i .idle (debounceDispatch s.matcher now w ⟨job.key.property, d.name⟩).1
          (.finished job :: dispatchedBy s.matcher s.now now w ⟨job.key.property, d.name⟩))
  | expire (id i : Nat) (t : ArmedTimer) (harmed : s.matcher.armed.lookup id = some t)
      (hi : s.threads i = .idle) (hdue : t.due ≤ s.now) :
      Effect st s (.expire id i)
        (s.become i (.starting ⟨id, t.key, t.binding, s.now⟩)
          { s.matcher with armed := s.matcher.armed.erase id } [])

theorem effect_listed (st : Settings) (s : System) (i : Nat) (result : Option (List Binding)) :
    Effect st s (.list i result) (s.listed i result) := by
  unfold System.listed
  split
  · exact .listFailed i _ _ _ (by assumption)
  · exact .listed i _ _ _ _ (by assumption)
  · exact .relistFailed i _ _ _ (by assumption)
  · split
    · exact .relistMissed i _ _ _ _ (by assumption) (by assumption)
    · exact .relisted i _ _ _ _ _ (by assumption) (by assumption)
  · exact .stutter _

theorem effect_advance (st : Settings) (s : System) (i : Nat) :
    Effect st s (.advance i) (s.advance st i) := by
  unfold System.advance
  split
  · exact .observe i _ _ _ _ _ (by assumption)
  · exact .finish i _ _ _ (by assumption)
  · split_ifs with hw
    · exact .immediate i _ _ _ _ _ (by assumption) hw
    · exact .read i _ _ _ _ _ (by assumption) (not_le.mp hw)
  · exact .dispatch i _ _ _ _ _ _ _ (by assumption) rfl
  · exact .schedule i _ _ _ _ _ (by assumption)
  · rename_i job hi
    split
    · rename_i m heq
      have h := @Effect.beginDone st s i job hi (by rw [heq])
      rwa [heq] at h
    · rename_i m value d heq
      have h := @Effect.begin st s i job value d hi (by rw [heq])
      rwa [heq] at h
  · exact .fire i _ _ _ _ _ (by assumption)
  · exact .stutter _

/-- **What a step can do.** -/
theorem effect_step (st : Settings) (s : System) (a : Action) : Effect st s a (step st s a) := by
  cases a with
  | tick d => exact .tick d
  | call i ev =>
    simp only [step, System.call]
    split
    · exact .call i ev _ (by assumption) (by assumption)
    · exact .stutter _
  | list i result => exact effect_listed st s i result
  | advance i => exact effect_advance st s i
  | expire id i =>
    simp only [step, System.expire]
    split
    · split_ifs with hdue
      · exact .expire id i _ (by assumption) (by assumption) hdue
      · exact .stutter _
    · exact .stutter _

/-! ## A thread on its own -/

/-- Only thread `i` acts. -/
def Alone (i : Nat) : Action → Prop
  | .tick _ => True
  | .list j _ => j = i
  | .advance j => j = i
  | .call j _ => j = i
  | .expire _ j => j = i

/-- Left alone, the thread brings the Matcher from `s` to `m` and ends, with `last` observed
last. -/
def EndsAlone (st : Settings) (s : System) (i : Nat) (m : Matcher) (last : Observation) : Prop :=
  ∃ actions, (∀ a ∈ actions, Alone i a) ∧ (run (step st) s actions).matcher = m ∧
    (run (step st) s actions).threads = Function.update s.threads i .idle ∧
    (run (step st) s actions).trace.head? = some last

section

variable {st : Settings} {s : System} {i : Nat} {m m' : Matcher} {seen : List Observation}
  {last : Observation} {a : Action}

theorem EndsAlone.go {t : Thread} (ha : Alone i a)
    (hstep : step st s a = s.become i t m' seen)
    (h : ∀ s', s'.threads i = t → s'.matcher = m' → s'.now = s.now → EndsAlone st s' i m last) :
    EndsAlone st s i m last := by
  obtain ⟨actions, halone, hm, ht, hlast⟩ :=
    h (s.become i t m' seen) (by simp [System.become]) rfl rfl
  refine ⟨a :: actions, List.forall_mem_cons.mpr ⟨ha, halone⟩, ?_⟩
  rw [run_cons, hstep]
  exact ⟨hm, ht.trans (Function.update_idem _ _ _), hlast⟩

theorem EndsAlone.wait {t : Time} (ht : s.now ≤ t)
    (h : ∀ s', s'.threads i = s.threads i → s'.matcher = s.matcher → s'.now = t →
      EndsAlone st s' i m last) : EndsAlone st s i m last := by
  have hnow : s.now + ((t - s.now).toNat : Int) = t := by
    rw [Int.toNat_of_nonneg (Int.sub_nonneg_of_le ht)]
    exact add_sub_cancel s.now t
  obtain ⟨actions, halone, hm, hthreads, hlast⟩ :=
    h (step st s (.tick (t - s.now).toNat)) rfl rfl hnow
  exact ⟨.tick (t - s.now).toNat :: actions, List.forall_mem_cons.mpr ⟨trivial, halone⟩, hm,
    hthreads, hlast⟩

theorem EndsAlone.idle (ha : Alone i a)
    (hstep : step st s a = s.become i .idle m (last :: seen)) : EndsAlone st s i m last := by
  refine ⟨[a], by simpa using ha, ?_⟩
  rw [run_cons, run_nil, hstep]
  exact ⟨rfl, rfl, rfl⟩

end

section Alone

variable (st : Settings) {clock : Nat → Time} {i : Nat}

theorem endsAlone_looping (hclock : ∀ n, clock n ≤ clock (n + 1)) {key : DebounceKey}
    {value : String} {ws : List Candidate} {n : Nat} {s : System} {results : List Candidate}
    (hi : s.threads i = .looping key value results ws) (hnow : s.now ≤ clock n) :
    EndsAlone st s i (dispatchLoop st clock key n s.matcher ws).1
      (.returned (results ++ (dispatchLoop st clock key n s.matcher ws).2)) := by
  induction ws generalizing n s results with
  | nil =>
    have hstep : step st s (.advance i) = s.become i .idle s.matcher [.returned results] := by
      simp only [step, System.advance, hi]
    simpa only [dispatchLoop, List.append_nil] using EndsAlone.idle (a := .advance i) rfl hstep
  | cons w rest ih =>
    unfold dispatchLoop
    dsimp only
    by_cases hw : w.minDuration ≤ 0
    · rw [if_pos hw]
      have hstep : step st s (.advance i) =
          s.become i (.looping key value (results ++ [w]) rest) s.matcher [] := by
        simp only [step, System.advance, hi, if_pos hw]
      refine EndsAlone.go (a := .advance i) rfl hstep fun s₁ hi₁ hm₁ hn₁ => ?_
      have hrest := ih hi₁ (hn₁ ▸ hnow)
      rwa [hm₁, List.append_assoc] at hrest
    rw [if_neg hw]
    -- the clock reading, and then the section of `debounceDispatch`
    refine EndsAlone.wait hnow fun s₁ hi₁ hm₁ hn₁ => ?_
    have hread : step st s₁ (.advance i) =
        s₁.become i (.dispatching key value results w rest (clock n)) s₁.matcher [] := by
      simp only [step, System.advance, hi₁.trans hi, if_neg hw, hn₁]
    refine EndsAlone.go (a := .advance i) rfl hread fun s₂ hi₂ hm₂ hn₂ => ?_
    have hm : s₂.matcher = s.matcher := hm₂.trans hm₁
    have hlater : s₂.now ≤ clock (n + 1) := by
      rw [hn₂, hn₁]
      exact hclock n
    by_cases hempty : (debounceDispatch s.matcher (clock n) w key).2 = ""
    · rw [if_pos hempty]
      have hdispatch : step st s₂ (.advance i) =
          s₂.become i (.scheduling key value results w rest)
            (debounceDispatch s.matcher (clock n) w key).1
            (dispatchedBy s.matcher s₂.now (clock n) w key) := by
        simp only [step, System.advance, hi₂, hm, if_pos hempty]
      refine EndsAlone.go (a := .advance i) rfl hdispatch fun s₃ hi₃ hm₃ hn₃ => ?_
      refine EndsAlone.wait (hn₃ ▸ hlater) fun s₄ hi₄ hm₄ hn₄ => ?_
      have hschedule : step st s₄ (.advance i) =
          s₄.become i (.looping key value results rest)
            (scheduleDeferred st s₄.matcher (clock (n + 1)) w key)
            (armedBy st s₄.matcher w key) := by
        simp only [step, System.advance, hi₄.trans hi₃, hn₄]
      refine EndsAlone.go (a := .advance i) rfl hschedule fun s₅ hi₅ hm₅ hn₅ => ?_
      have hrest := ih (n := n + 2) hi₅ (by rw [hn₅, hn₄]; exact hclock (n + 1))
      rwa [hm₅, hm₄, hm₃] at hrest
    · rw [if_neg hempty]
      have hdispatch : step st s₂ (.advance i) =
          s₂.become i (.looping key value (results ++ [w]) rest)
            (debounceDispatch s.matcher (clock n) w key).1
            (dispatchedBy s.matcher s₂.now (clock n) w key) := by
        simp only [step, System.advance, hi₂, hm, if_neg hempty]
      refine EndsAlone.go (a := .advance i) rfl hdispatch fun s₃ hi₃ hm₃ hn₃ => ?_
      have hrest := ih hi₃ (hn₃ ▸ hlater)
      rwa [hm₃, List.append_assoc] at hrest

/-- **A call on its own.**  Left alone, a call of `FindConditions` is `findWinners` at the times
it reads. -/
theorem endsAlone_call (hclock : ∀ n, clock n ≤ clock (n + 1)) {s : System} {ev : DeviceEvent}
    {d : Device} (hdevice : ev.device = some d) (list : Option (List Binding))
    (hi : s.threads i = .idle) (hnow : s.now ≤ clock 0) :
    EndsAlone st s i (findWinners st clock s.matcher ev list).1
      (.returned (findWinners st clock s.matcher ev list).2) := by
  have hcall : step st s (.call i ev) =
      s.become i (.listing ev.property ev.value d) s.matcher [] := by
    simp only [step, System.call, hi, hdevice]
  refine EndsAlone.go (a := .call i ev) rfl hcall fun s₁ hi₁ hm₁ hn₁ => ?_
  unfold findWinners
  rw [hdevice]
  cases list with
  | none =>
    have hlist : step st s₁ (.list i none) = s₁.become i .idle s.matcher [.returned []] := by
      simp only [step, System.listed, hi₁, hm₁]
    exact EndsAlone.idle (a := .list i none) rfl hlist
  | some bindings =>
    refine EndsAlone.wait (hn₁ ▸ hnow) fun s₂ hi₂ hm₂ hn₂ => ?_
    have hlist : step st s₂ (.list i (some bindings)) =
        s₂.become i (.observing ev.property ev.value d bindings (clock 0)) s.matcher [] := by
      simp only [step, System.listed, hi₂.trans hi₁, hm₂.trans hm₁, hn₂]
    refine EndsAlone.go (a := .list i (some bindings)) rfl hlist fun s₃ hi₃ hm₃ hn₃ => ?_
    have hobserve : step st s₃ (.advance i) =
        s₃.become i (.looping ⟨ev.property, d.name⟩ ev.value []
            (winners st.sort bindings ev.property ev.value d))
          (observeValue s.matcher (clock 0) ev.property ev.value d)
          (openedBy s.matcher s₃.now ev.property ev.value d) := by
      simp only [step, System.advance, hi₃, hm₃]
    refine EndsAlone.go (a := .advance i) rfl hobserve fun s₄ hi₄ hm₄ hn₄ => ?_
    have hlater : s₄.now ≤ clock 1 := by
      rw [hn₄, hn₃, hn₂]
      exact hclock 0
    have hloop := endsAlone_looping st hclock hi₄ hlater
    rwa [hm₄, List.nil_append] at hloop

/-- **A callback on its own.**  Left alone, a callback is `fireDeferred`. -/
theorem endsAlone_callback {s : System} {job : Job} (list : Option (List Binding))
    (hi : s.threads i = .starting job) (hnow : s.now ≤ clock 0) :
    EndsAlone st s i (fireDeferred clock s.matcher job.key job.binding list).1 (.finished job) := by
  unfold fireDeferred
  rcases hbegin : beginDeferred s.matcher job.key job.binding with ⟨m, _ | ⟨value, d⟩⟩
  · have hstep : step st s (.advance i) = s.become i .idle m [.finished job] := by
      simp only [step, System.advance, hi, hbegin]
    exact EndsAlone.idle (a := .advance i) rfl hstep
  have hstep : step st s (.advance i) = s.become i (.relisting job value d) m [] := by
    simp only [step, System.advance, hi, hbegin]
  refine EndsAlone.go (a := .advance i) rfl hstep fun s₁ hi₁ hm₁ hn₁ => ?_
  cases list with
  | none =>
    have hlist : step st s₁ (.list i none) = s₁.become i .idle m [.finished job] := by
      simp only [step, System.listed, hi₁, hm₁]
    exact EndsAlone.idle (a := .list i none) rfl hlist
  | some bindings =>
    refine EndsAlone.wait (hn₁ ▸ hnow) fun s₂ hi₂ hm₂ hn₂ => ?_
    rcases hfind : findDeferred bindings job.binding job.key.property value d with _ | w
    · have hlist : step st s₂ (.list i (some bindings)) =
          s₂.become i .idle m [.finished job] := by
        simp only [step, System.listed, hi₂.trans hi₁, hm₂.trans hm₁, hfind]
      simpa only [hfind] using EndsAlone.idle (a := .list i (some bindings)) rfl hlist
    · have hlist : step st s₂ (.list i (some bindings)) =
          s₂.become i (.firing job value d w (clock 0)) m [] := by
        simp only [step, System.listed, hi₂.trans hi₁, hm₂.trans hm₁, hfind, hn₂]
      refine EndsAlone.go (a := .list i (some bindings)) rfl hlist fun s₃ hi₃ hm₃ hn₃ => ?_
      have hfire : step st s₃ (.advance i) =
          s₃.become i .idle (debounceDispatch m (clock 0) w ⟨job.key.property, d.name⟩).1
            (.finished job :: dispatchedBy m s₃.now (clock 0) w ⟨job.key.property, d.name⟩) := by
        simp only [step, System.advance, hi₃, hm₃]
      simpa only [hfind] using EndsAlone.idle (a := .advance i) rfl hfire

end Alone

/-- A leak is reported at `time`, and the List has the debounced Binding. -/
def leakReported (time : Time) (m : Matcher) : Matcher × List Candidate :=
  findWinners deferredSettings (fun n => (n : Int) + time) m
    ⟨"water_leak", "true", some leakSensor⟩ (some [leakBinding])

def leakSeen : Matcher := (leakReported 0 {}).1

/-- The first report of a leak arms a timer, and one after forty seconds is dispatched. -/
theorem leak_endsAlone :
    (leakSeen.armed.lookup 0).isSome = true ∧
      EndsAlone deferredSettings (System.start 0) 3 leakSeen (.returned (leakReported 0 {}).2) ∧
      (leakReported (40 * second) leakSeen).2.map Candidate.condition = ["pump-off"] ∧
      EndsAlone deferredSettings { System.start (40 * second) with matcher := leakSeen } 3
        (leakReported (40 * second) leakSeen).1
        (.returned (leakReported (40 * second) leakSeen).2) := by
  have hclock : ∀ (t : Time) (n : Nat), (n : Int) + t ≤ ((n + 1 : Nat) : Int) + t := fun t n =>
    Int.add_le_add_right (Int.ofNat_le.mpr n.le_succ) t
  refine ⟨by decide +kernel, ?_, by decide +kernel, ?_⟩
  · exact endsAlone_call _ (hclock 0) rfl (some [leakBinding]) rfl (by decide)
  · exact endsAlone_call _ (hclock (40 * second)) rfl (some [leakBinding]) rfl (by decide)

/-- The callback of that timer finds the Binding in the List and dispatches it. -/
theorem deferred_endsAlone :
    (fireDeferred (fun _ => 31 * second) leakSeen ⟨"water_leak", "leak-sensor"⟩ "leak"
        (some [leakBinding])).2 = some "pump-off" ∧
      EndsAlone deferredSettings
        ⟨31 * second, leakSeen, fun _ => .starting ⟨0, ⟨"water_leak", "leak-sensor"⟩, "leak", 0⟩, []⟩
        3 (fireDeferred (fun _ => 31 * second) leakSeen ⟨"water_leak", "leak-sensor"⟩ "leak"
          (some [leakBinding])).1
        (.finished ⟨0, ⟨"water_leak", "leak-sensor"⟩, "leak", 0⟩) := by
  refine ⟨by decide +kernel, ?_⟩
  exact @endsAlone_callback deferredSettings (fun _ => 31 * second) 3
    ⟨31 * second, leakSeen, fun _ => .starting ⟨0, ⟨"water_leak", "leak-sensor"⟩, "leak", 0⟩, []⟩
    ⟨0, ⟨"water_leak", "leak-sensor"⟩, "leak", 0⟩ (some [leakBinding]) rfl le_rfl

/-! ## Windows in the trace -/

def opens (key : DebounceKey) : Observation → Bool
  | .opened key' _ _ => key' = key
  | _ => false

def concerns (key : DebounceKey) : Observation → Bool
  | .dispatched key' _ _ => key' = key
  | .armed key' _ _ => key' = key
  | .finished job => job.key = key
  | _ => false

def window (key : DebounceKey) : List Observation → List Observation
  | [] => []
  | o :: earlier =>
    if opens key o then []
    else if concerns key o then o :: window key earlier
    else window key earlier

def dispatches (name : String) : Observation → Bool
  | .dispatched _ w _ => w.name = name
  | _ => false

def dispatchCount (key : DebounceKey) (name : String) (trace : List Observation) : Nat :=
  (window key trace).countP (dispatches name)

@[simp] theorem window_returned (key : DebounceKey) (results : List Candidate)
    (trace : List Observation) : window key (.returned results :: trace) = window key trace := by
  simp [window, opens, concerns]

theorem window_finished (key : DebounceKey) (job : Job) (trace : List Observation) :
    window key (.finished job :: trace) =
      if job.key = key then .finished job :: window key trace else window key trace := by
  simp [window, opens, concerns]

theorem window_openedBy (key : DebounceKey) (m : Matcher) (time : Time)
    (property value : String) (d : Device) (trace : List Observation) :
    window key (openedBy m time property value d ++ trace) =
      if m.recorded ⟨property, d.name⟩ ≠ some value ∧ key = ⟨property, d.name⟩ then []
      else window key trace := by
  unfold openedBy
  by_cases h : m.recorded ⟨property, d.name⟩ = some value
  · simp [h]
  · by_cases hkey : key = ⟨property, d.name⟩
    · simp [h, hkey, window, opens]
    · simp [h, hkey, window, opens, concerns, Ne.symm hkey]

theorem window_dispatchedBy (key' : DebounceKey) (m : Matcher) (time now : Time) (w : Candidate)
    (key : DebounceKey) (trace : List Observation) :
    window key' (dispatchedBy m time now w key ++ trace) =
      if key' = key ∧ ∃ e, m.debounce.lookup key = some e ∧ dwellElapsed e now w = true then
        .dispatched key w time :: window key' trace
      else window key' trace := by
  unfold dispatchedBy
  cases m.debounce.lookup key with
  | none => simp
  | some e =>
    by_cases helapsed : dwellElapsed e now w = true
    · by_cases hkey : key' = key
      · simp [helapsed, hkey, window, opens, concerns]
      · simp [helapsed, hkey, window, opens, concerns, Ne.symm hkey]
    · simp [helapsed]

theorem window_armedBy (key' : DebounceKey) (st : Settings) (m : Matcher) (w : Candidate)
    (key : DebounceKey) (trace : List Observation) :
    window key' (armedBy st m w key ++ trace) =
      if key' = key ∧ ∃ e, m.debounce.lookup key = some e ∧ arms st e w = true then
        .armed key w.name m.nextTimer :: window key' trace
      else window key' trace := by
  unfold armedBy
  cases m.debounce.lookup key with
  | none => simp
  | some e =>
    by_cases harms : arms st e w = true
    · by_cases hkey : key' = key
      · simp [harms, hkey, window, opens, concerns]
      · simp [harms, hkey, window, opens, concerns, Ne.symm hkey]
    · simp [harms]

end IotController.Bindings
