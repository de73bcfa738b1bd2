/-
  The debounce state of the Matcher and the functions
  that hold its lock (`pkg/iot/bindings/match.go`).

  `observeValue`, `debounceDispatch`, `scheduleDeferred` and `beginDeferred` (the locked
  part of `fireDeferred`) are the four critical sections; each is one function on `Matcher`.
  `findConditions` and `fireDeferred` put the sections together as the source does when
  nothing else runs in between; `Bindings/Interleaving.lean` lets other calls in.
-/
import IotController.Bindings.Match
import IotController.Foundation.Run

namespace IotController.Bindings

open Foundation Api

/-! ## State -/

/-- A property of a device. -/
structure DebounceKey where
  property : String
  device : String
  deriving DecidableEq

/-- A deferred timer is known by its number. -/
structure DebounceEntry where
  value : String
  firstSeen : Time
  fired : GoMap String Bool := ∅
  device : Option Device
  timers : GoMap String Nat := ∅
  deriving DecidableEq

def DebounceEntry.isFired (e : DebounceEntry) (name : String) : Bool :=
  (e.fired.lookup name).getD false

def DebounceEntry.markFired (e : DebounceEntry) (name : String) : DebounceEntry :=
  { e with fired := e.fired.insert name true }

/-- A timer that will call `fireDeferred`. -/
structure ArmedTimer where
  due : Time
  key : DebounceKey
  binding : String
  deriving DecidableEq

/-- The debounce state of `Matcher`. -/
structure Matcher where
  debounce : GoMap DebounceKey DebounceEntry := ∅
  armed : GoMap Nat ArmedTimer := ∅
  nextTimer : Nat := 0
  deriving DecidableEq

/-- What is fixed when the Matcher is built.  `activateFn` says whether
`WithActivateFunc` was called. -/
structure Settings where
  sort : SliceSort
  activateFn : Bool := true
  epsilon : Duration := 100000000
  epsilon_nonneg : 0 ≤ epsilon := by decide

variable (st : Settings) (m : Matcher) (now : Time) (w : Candidate) (key : DebounceKey)
  (e : DebounceEntry)

def Matcher.recorded (key : DebounceKey) : Option String :=
  (m.debounce.lookup key).map DebounceEntry.value

def Matcher.put (key : DebounceKey) (e : DebounceEntry) : Matcher :=
  { m with debounce := m.debounce.insert key e }

@[simp] theorem Matcher.put_nextTimer :
    (m.put key e).nextTimer = m.nextTimer := rfl

@[simp] theorem Matcher.put_armed :
    (m.put key e).armed = m.armed := rfl

theorem Matcher.lookup_put (key key' : DebounceKey) (e : DebounceEntry) :
    (m.put key e).debounce.lookup key' = if key' = key then some e else m.debounce.lookup key' :=
  GoMap.lookup_insert_eq m.debounce key key' e

/-! ## Critical sections -/

/-- `t.Stop()` for every timer of an entry.  Deletions commute, so the order of
the loop does not matter. -/
def stopAll (timers : GoMap String Nat) (armed : GoMap Nat ArmedTimer) : GoMap Nat ArmedTimer :=
  timers.entries.foldl (fun armed t => armed.erase t.2) armed

def observeValue (now : Time) (property value : String) (d : Device) : Matcher :=
  let key : DebounceKey := ⟨property, d.name⟩
  let opened : DebounceEntry := { value := value, firstSeen := now, device := some d }
  match m.debounce.lookup key with
  | some entry =>
    if entry.value = value then m.put key { entry with device := some d }
    else { m with armed := stopAll entry.timers m.armed }.put key opened
  | none => m.put key opened

/-- The test that `debounceDispatch` makes: the Binding has not fired for the
entry and the dwell has elapsed. -/
def dwellElapsed (e : DebounceEntry) (now : Time) (w : Candidate) : Bool :=
  !e.isFired w.name && decide (w.minDuration ≤ Time.sub now e.firstSeen)

def debounceDispatch (now : Time) (w : Candidate) (key : DebounceKey) :
    Matcher × String :=
  match m.debounce.lookup key with
  | none => (m, "")
  | some entry =>
    if dwellElapsed entry now w then
      (m.put key (entry.markFired w.name), w.condition)
    else (m, "")

def deferredDelay (e : DebounceEntry) (now : Time) (w : Candidate) : Duration :=
  let delay := Time.sub (e.firstSeen + w.minDuration + st.epsilon) now
  if delay ≤ 0 then st.epsilon else delay

/-- Arm a timer for the rest of the dwell, unless it has fired or has one. -/
def scheduleDeferred (now : Time) (w : Candidate) (key : DebounceKey) : Matcher :=
  if st.activateFn = false then m
  else
    match m.debounce.lookup key with
    | none => m
    | some entry =>
      if entry.isFired w.name then m
      else if (entry.timers.lookup w.name).isSome then m
      else
        { m with
          armed := m.armed.insert m.nextTimer ⟨now + deferredDelay st entry now w, key, w.name⟩
          nextTimer := m.nextTimer + 1 }.put key
            { entry with timers := entry.timers.insert w.name m.nextTimer }

/-- The first part of `fireDeferred`: the timer leaves the entry, whose value and device are
read unless the Binding has fired. -/
def beginDeferred (key : DebounceKey) (binding : String) :
    Matcher × Option (String × Device) :=
  match m.debounce.lookup key with
  | none => (m, none)
  | some entry =>
    let entry := { entry with timers := entry.timers.erase binding }
    if entry.isFired binding then (m.put key entry, none)
    else (m.put key entry, entry.device.map fun d => (entry.value, d))

/-- The Binding of `fireDeferred` in a fresh List, if it still matches and has a MinDuration. -/
def findDeferred (bindings : List Binding) (binding property value : String) (d : Device) :
    Option Candidate :=
  match bindings.find? fun b => b.name = binding with
  | none => none
  | some b =>
    if bindingMatches b property value d = false then none
    else if b.event.minDuration ≤ 0 then none
    else some (candidateOf b)

/-- The loop of `FindConditions` over the winners; `clock n` is the clock's reading number `n`. -/
def dispatchLoop (st : Settings) (clock : Nat → Time) (key : DebounceKey) :
    Nat → Matcher → List Candidate → Matcher × List Candidate
  | _, m, [] => (m, [])
  | n, m, w :: rest =>
    if w.minDuration ≤ 0 then
      let (m, results) := dispatchLoop st clock key n m rest
      (m, w :: results)
    else
      let (m, condition) := debounceDispatch m (clock n) w key
      if condition = "" then
        dispatchLoop st clock key (n + 2) (scheduleDeferred st m (clock (n + 1)) w key) rest
      else
        let (m, results) := dispatchLoop st clock key (n + 1) m rest
        (m, w :: results)

/-- `FindConditions` with its winners. -/
def findWinners (clock : Nat → Time) (m : Matcher) (ev : DeviceEvent) (list : Option (List Binding)) :
    Matcher × List Candidate :=
  match ev.device with
  | none => (m, [])
  | some d =>
    match list with
    | none => (m, [])
    | some bindings =>
      dispatchLoop st clock ⟨ev.property, d.name⟩ 1
        (observeValue m (clock 0) ev.property ev.value d)
        (winners st.sort bindings ev.property ev.value d)

/-- The List is `none` when it fails. -/
def findConditions (clock : Nat → Time) (m : Matcher) (ev : DeviceEvent)
    (list : Option (List Binding)) : Matcher × List String :=
  let (m, results) := findWinners st clock m ev list
  (m, results.map Candidate.condition)

/-- The callback of a timer, with what its List returns. -/
def fireDeferred (clock : Nat → Time) (m : Matcher) (key : DebounceKey) (binding : String)
    (list : Option (List Binding)) : Matcher × Option String :=
  match beginDeferred m key binding with
  | (m, none) => (m, none)
  | (m, some (value, d)) =>
    match list with
    | none => (m, none)
    | some bindings =>
      match findDeferred bindings binding key.property value d with
      | none => (m, none)
      | some w =>
        let (m, condition) := debounceDispatch m (clock 0) w ⟨key.property, d.name⟩
        (m, if condition = "" then none else some condition)

/-! ## What the sections keep -/

theorem lookup_stopAll_of_registered {timers : GoMap String Nat} {armed : GoMap Nat ArmedTimer}
    {name : String} {id : Nat} (h : timers.lookup name = some id) :
    (stopAll timers armed).lookup id = none := by
  have hmem := (GoMap.lookup_eq_some_iff_mem timers name id).mp h
  unfold stopAll
  generalize timers.entries = entries at hmem
  induction entries generalizing armed with
  | nil => cases hmem
  | cons t rest ih =>
    have hkeep : ∀ (rest : List (Σ _ : String, Nat)) (armed : GoMap Nat ArmedTimer),
        armed.lookup id = none →
        (rest.foldl (fun armed t => armed.erase t.2) armed).lookup id = none := by
      intro rest
      induction rest with
      | nil => exact fun _ h => h
      | cons _ _ ih =>
        intro armed h
        refine ih _ ?_
        rw [GoMap.lookup_erase_eq]
        split
        · rfl
        · exact h
    rcases List.mem_cons.mp hmem with rfl | hmem
    · exact hkeep rest _ (AList.lookup_erase _ _)
    · exact ih hmem

theorem lookup_of_lookup_stopAll {timers : GoMap String Nat} {armed : GoMap Nat ArmedTimer}
    {id : Nat} {t : ArmedTimer} (h : (stopAll timers armed).lookup id = some t) :
    armed.lookup id = some t := by
  unfold stopAll at h
  generalize timers.entries = entries at h
  induction entries generalizing armed with
  | nil => exact h
  | cons _ _ ih =>
    have h' := ih h
    rw [GoMap.lookup_erase_eq] at h'
    split at h'
    · cases h'
    · exact h'

theorem lookup_observeValue_of_ne {m : Matcher} {now : Time} {property value : String}
    {d : Device} {key : DebounceKey} (h : key ≠ ⟨property, d.name⟩) :
    (observeValue m now property value d).debounce.lookup key = m.debounce.lookup key := by
  unfold observeValue
  dsimp only
  split
  · split_ifs
    · rw [Matcher.lookup_put, if_neg h]
    · rw [Matcher.lookup_put, if_neg h]
  · rw [Matcher.lookup_put, if_neg h]

/-- **`observeValue` records the value**, in a new window exactly when it differs
from the recorded one. -/
theorem lookup_observeValue (property value : String) (d : Device) :
    (observeValue m now property value d).debounce.lookup ⟨property, d.name⟩ =
      some (match m.debounce.lookup ⟨property, d.name⟩ with
        | some entry =>
          if entry.value = value then { entry with device := some d }
          else { value := value, firstSeen := now, device := some d }
        | none => { value := value, firstSeen := now, device := some d }) := by
  unfold observeValue
  dsimp only
  split
  · split_ifs with hvalue
    · rw [Matcher.lookup_put, if_pos rfl]
    · rw [Matcher.lookup_put, if_pos rfl]
  · rw [Matcher.lookup_put, if_pos rfl]

theorem recorded_observeValue (property value : String) (d : Device) :
    (observeValue m now property value d).recorded ⟨property, d.name⟩ = some value := by
  unfold Matcher.recorded
  rw [lookup_observeValue]
  split
  · split_ifs with hvalue
    · exact congrArg some hvalue
    · rfl
  · rfl

/-- A later state of one window: the value and its clock are the same, and what fired stays. -/
structure Extends (e e' : DebounceEntry) : Prop where
  value : e'.value = e.value
  firstSeen : e'.firstSeen = e.firstSeen
  device : e'.device = e.device
  fired : ∀ name, e.isFired name = true → e'.isFired name = true

theorem Extends.refl : Extends e e := ⟨rfl, rfl, rfl, fun _ h => h⟩

theorem Extends.trans {e e' e'' : DebounceEntry} (h : Extends e e') (h' : Extends e' e'') :
    Extends e e'' where
  value := h'.value.trans h.value
  firstSeen := h'.firstSeen.trans h.firstSeen
  device := h'.device.trans h.device
  fired name hfired := h'.fired name (h.fired name hfired)

/-- Every window of `m` goes on in `m'`, and there are no others. -/
def Continues (m m' : Matcher) : Prop :=
  ∀ key, Option.Rel Extends (m.debounce.lookup key) (m'.debounce.lookup key)

theorem Continues.of_debounce_eq {m m' : Matcher} (h : m'.debounce = m.debounce) :
    Continues m m' := by
  intro key
  rw [h]
  cases m.debounce.lookup key with
  | none => exact Option.Rel.none
  | some e => exact Option.Rel.some (Extends.refl e)

theorem Continues.refl : Continues m m := Continues.of_debounce_eq rfl

theorem Continues.trans {m m' m'' : Matcher} (h : Continues m m') (h' : Continues m' m'') :
    Continues m m'' := by
  intro key
  have hkey := h key
  have hkey' := h' key
  revert hkey hkey'
  cases m.debounce.lookup key <;> cases m'.debounce.lookup key <;>
    cases m''.debounce.lookup key <;> rintro (h₁ | _) (h₂ | _)
  · exact Option.Rel.none
  · exact Option.Rel.some (h₁.trans h₂)

theorem Continues.put {m m' : Matcher} {key : DebounceKey} {e e' : DebounceEntry}
    (hdebounce : m'.debounce = m.debounce) (hlookup : m.debounce.lookup key = some e)
    (hextends : Extends e e') : Continues m (m'.put key e') := by
  intro key'
  rw [Matcher.lookup_put, hdebounce]
  split
  · rename_i h
    rw [h, hlookup]
    exact Option.Rel.some hextends
  · exact Continues.refl m key'

theorem Continues.recorded {m m' : Matcher} (h : Continues m m') (key : DebounceKey) :
    m'.recorded key = m.recorded key := by
  have hkey := h key
  unfold Matcher.recorded
  revert hkey
  cases m.debounce.lookup key <;> cases m'.debounce.lookup key <;> rintro (hextends | _)
  · rfl
  · exact congrArg some hextends.value

theorem isFired_markFired (name name' : String) :
    (e.markFired name).isFired name' = (decide (name' = name) || e.isFired name') := by
  unfold DebounceEntry.isFired DebounceEntry.markFired
  rw [GoMap.lookup_insert_eq]
  split <;> simp_all

theorem continues_debounceDispatch : Continues m (debounceDispatch m now w key).1 := by
  unfold debounceDispatch
  split
  · exact Continues.refl m
  · rename_i entry hlookup
    split_ifs
    · refine Continues.put rfl hlookup ⟨rfl, rfl, rfl, fun name h => ?_⟩
      rw [isFired_markFired, h, Bool.or_true]
    · exact Continues.refl m

theorem continues_scheduleDeferred : Continues m (scheduleDeferred st m now w key) := by
  unfold scheduleDeferred
  split_ifs
  · exact Continues.refl m
  · split
    · exact Continues.refl m
    · rename_i entry hlookup
      split_ifs
      · exact Continues.refl m
      · exact Continues.refl m
      · exact Continues.put rfl hlookup ⟨rfl, rfl, rfl, fun _ h => h⟩

theorem continues_beginDeferred (binding : String) :
    Continues m (beginDeferred m key binding).1 := by
  unfold beginDeferred
  split
  · exact Continues.refl m
  · rename_i entry hlookup
    dsimp only
    split_ifs
    · exact Continues.put rfl hlookup ⟨rfl, rfl, rfl, fun _ h => h⟩
    · exact Continues.put rfl hlookup ⟨rfl, rfl, rfl, fun _ h => h⟩

theorem continues_dispatchLoop (clock : Nat → Time) (key : DebounceKey) (n : Nat) (m : Matcher)
    (ws : List Candidate) :
    Continues m (dispatchLoop st clock key n m ws).1 := by
  induction ws generalizing n m with
  | nil => exact Continues.refl m
  | cons w _ ih =>
    have hdispatch := continues_debounceDispatch m (clock n) w key
    unfold dispatchLoop
    dsimp only
    split_ifs
    · exact ih n m
    · exact (hdispatch.trans (continues_scheduleDeferred st _ _ w key)).trans (ih _ _)
    · exact hdispatch.trans (ih _ _)

theorem continues_fireDeferred (clock : Nat → Time) (m : Matcher) (key : DebounceKey)
    (binding : String) (list : Option (List Binding)) :
    Continues m (fireDeferred clock m key binding list).1 := by
  have hbegin := continues_beginDeferred m key binding
  unfold fireDeferred
  split
  · rename_i heq
    rwa [heq] at hbegin
  · rename_i m' value d heq
    rw [heq] at hbegin
    split
    · exact hbegin
    · split
      · exact hbegin
      · exact hbegin.trans (continues_debounceDispatch m' _ _ _)

/-! ## The entries after each section -/

theorem lookup_of_rewrites {m m' : Matcher} {key : DebounceKey}
    {f : DebounceEntry → DebounceEntry}
    (hnone : m.debounce.lookup key = none → m'.debounce = m.debounce)
    (hsome : ∀ e, m.debounce.lookup key = some e →
      m'.debounce = (m.put key (f e)).debounce ∨ f e = e ∧ m'.debounce = m.debounce)
    (key' : DebounceKey) :
    m'.debounce.lookup key' =
      if key' = key then (m.debounce.lookup key).map f else m.debounce.lookup key' := by
  have hput := m.lookup_put key key'
  cases hlookup : m.debounce.lookup key with
  | none => grind
  | some e => grind

theorem lookup_debounceDispatch (key key' : DebounceKey) :
    (debounceDispatch m now w key).1.debounce.lookup key' =
      if key' = key then
        (m.debounce.lookup key).map fun e =>
          if dwellElapsed e now w then e.markFired w.name else e
      else m.debounce.lookup key' := by
  refine lookup_of_rewrites (fun hnone => ?_) (fun e hlookup => ?_) key'
  · simp only [debounceDispatch, hnone]
  · simp only [debounceDispatch, hlookup]
    split_ifs
    · exact Or.inl rfl
    · exact Or.inr ⟨rfl, rfl⟩

def arms (e : DebounceEntry) (w : Candidate) : Bool :=
  st.activateFn && !e.isFired w.name && (e.timers.lookup w.name).isNone

theorem scheduleDeferred_eq :
    scheduleDeferred st m now w key =
      match m.debounce.lookup key with
      | none => m
      | some e =>
        if arms st e w then
          { m with
            armed := m.armed.insert m.nextTimer ⟨now + deferredDelay st e now w, key, w.name⟩
            nextTimer := m.nextTimer + 1 }.put key
              { e with timers := e.timers.insert w.name m.nextTimer }
        else m := by
  unfold scheduleDeferred arms
  cases hactivate : st.activateFn <;> cases m.debounce.lookup key with
  | none => simp
  | some e =>
    cases hfired : e.isFired w.name <;> cases htimer : e.timers.lookup w.name <;>
      simp [hfired, htimer]

theorem lookup_scheduleDeferred (key key' : DebounceKey) :
    (scheduleDeferred st m now w key).debounce.lookup key' =
      if key' = key then
        (m.debounce.lookup key).map fun e =>
          if arms st e w then { e with timers := e.timers.insert w.name m.nextTimer } else e
      else m.debounce.lookup key' := by
  rw [scheduleDeferred_eq]
  refine lookup_of_rewrites (fun hnone => ?_) (fun e hlookup => ?_) key'
  · simp only [hnone]
  · simp only [hlookup]
    split_ifs
    · exact Or.inl rfl
    · exact Or.inr ⟨rfl, rfl⟩

theorem lookup_beginDeferred (binding : String) (key' : DebounceKey) :
    (beginDeferred m key binding).1.debounce.lookup key' =
      if key' = key then
        (m.debounce.lookup key).map fun e => { e with timers := e.timers.erase binding }
      else m.debounce.lookup key' := by
  refine lookup_of_rewrites (fun hnone => ?_) (fun e hlookup => Or.inl ?_) key'
  · simp only [beginDeferred, hnone]
  · simp only [beginDeferred, hlookup]
    split_ifs <;> rfl

/-! ## Every observation counts -/

/-- What reaches the Matcher: an event with the outcome of its List, or a deferred timer. -/
inductive Arrival where
  | event (property value : String) (d : Device) (list : Option (List Binding))
      (clock : Nat → Time)
  | timer (key : DebounceKey) (binding : String) (list : Option (List Binding))
      (clock : Nat → Time)

def arrive : Arrival → Matcher
  | .event property value d list clock =>
    (findConditions st clock m ⟨property, value, some d⟩ list).1
  | .timer key binding list clock => (fireDeferred clock m key binding list).1

/-- A new window for `value` opens at `now`: nothing has fired in it, and no timer of it or of
the one before is armed. -/
structure OpensWindow (m m' : Matcher) (key : DebounceKey) (value : String) (now : Time)
    (d : Device) : Prop where
  entry : m'.debounce.lookup key =
    some { value := value, firstSeen := now, fired := ∅, device := some d, timers := ∅ }
  cancelled : ∀ e, m.debounce.lookup key = some e → ∀ name id, e.timers.lookup name = some id →
    m'.armed.lookup id = none

/-- An event's value is recorded, in a new window if it is another one.  A timer records
nothing. -/
def Counts : Arrival → Prop
  | .event property value d list clock =>
    (arrive st m (.event property value d list clock)).recorded ⟨property, d.name⟩ =
        some value ∧
      (m.recorded ⟨property, d.name⟩ ≠ some value →
        ∃ m' ws, OpensWindow m m' ⟨property, d.name⟩ value (clock 0) d ∧
          arrive st m (.event property value d list clock) =
            (dispatchLoop st clock ⟨property, d.name⟩ 1 m' ws).1)
  | .timer key binding list clock =>
    ∀ key', (arrive st m (.timer key binding list clock)).recorded key' = m.recorded key'

/-- The List succeeds, or the value is the recorded one. -/
def Heard : Arrival → Prop
  | .event property value d list _ =>
    list.isSome = true ∨ m.recorded ⟨property, d.name⟩ = some value
  | .timer _ _ _ _ => True

theorem opensWindow_observeValue {m : Matcher} {property value : String} {d : Device}
    (h : m.recorded ⟨property, d.name⟩ ≠ some value) (now : Time) :
    OpensWindow m (observeValue m now property value d) ⟨property, d.name⟩ value now d where
  entry := by
    rw [lookup_observeValue]
    split
    · rename_i entry hlookup
      rw [if_neg fun hvalue => h (by rw [Matcher.recorded, hlookup, ← hvalue]; rfl)]
    · rfl
  cancelled e hlookup name id hregistered := by
    have hvalue : e.value ≠ value :=
      fun hvalue => h (by rw [Matcher.recorded, hlookup, ← hvalue]; rfl)
    unfold observeValue
    simp only [hlookup, if_neg hvalue, Matcher.put_armed]
    exact lookup_stopAll_of_registered hregistered

theorem counts_iff_heard (a : Arrival) :
    Counts st m a ↔ Heard m a := by
  cases a with
  | timer key binding list clock =>
    exact ⟨fun _ => trivial, fun _ key' =>
      (continues_fireDeferred clock m key binding list).recorded key'⟩
  | event property value d list clock =>
    cases list with
    | none =>
      -- the source returns before it observes anything
      constructor
      · exact fun h => Or.inr h.1
      · rintro (h | h)
        · cases h
        · exact ⟨h, fun hne => absurd h hne⟩
    | some =>
      refine ⟨fun _ => Or.inl rfl, fun _ => ⟨?_, fun hne => ?_⟩⟩
      · exact ((continues_dispatchLoop st clock _ 1 _ _).recorded _).trans
          (recorded_observeValue m (clock 0) property value d)
      · exact ⟨_, _, opensWindow_observeValue hne (clock 0), rfl⟩

/-- **Observations count exactly when they are heard.**  Every event of a sequence leaves its
value recorded, in a new window if it changed, exactly when no List fails for an event that
changes the value. -/
theorem every_observation_counts_iff (st : Settings) (m : Matcher) (arrivals : List Arrival) :
    Along (arrive st) (Counts st) m arrivals ↔ Along (arrive st) Heard m arrivals :=
  ⟨Along.imp fun m a => (counts_iff_heard st m a).mp,
    Along.imp fun m a => (counts_iff_heard st m a).mpr⟩

def leakSensor : Device where
  name := "leak-sensor"

def leakBinding : Binding where
  name := "leak"
  event := { property := "water_leak", value := "true", minDuration := 30000000000 }
  condition := "pump-off"

def inlineSettings : Settings where
  sort := .insertion
  activateFn := false

def deferredSettings : Settings where
  sort := .insertion
  epsilon_nonneg := inlineSettings.epsilon_nonneg

/-- The sensor reports a leak, and after twenty seconds that it has ended; the
second List fails. -/
def leakEnds : List Arrival :=
  [.event "water_leak" "true" leakSensor (some [leakBinding]) fun _ => 0,
    .event "water_leak" "false" leakSensor none fun _ => 20 * second]

/-- The end of the leak is not recorded; a new leak twenty seconds later is dispatched at once. -/
theorem leak_end_lost :
    ¬ Along (arrive inlineSettings) (Counts inlineSettings) {} leakEnds ∧
      (run (arrive inlineSettings) {} leakEnds).recorded ⟨"water_leak", "leak-sensor"⟩ =
        some "true" ∧
      (findConditions inlineSettings (fun _ => 40 * second) (run (arrive inlineSettings) {} leakEnds)
        ⟨"water_leak", "true", some leakSensor⟩ (some [leakBinding])).2 = ["pump-off"] := by
  have hrecorded : (run (arrive inlineSettings) {} leakEnds).recorded
      ⟨"water_leak", "leak-sensor"⟩ = some "true" := by decide +kernel
  refine ⟨fun hcounts => ?_, hrecorded, by decide +kernel⟩
  have hlast : (run (arrive inlineSettings) {} leakEnds).recorded
      ⟨"water_leak", "leak-sensor"⟩ = some "false" := hcounts.2.1.1
  rw [hrecorded] at hlast
  exact absurd hlast (by decide)

end IotController.Bindings
