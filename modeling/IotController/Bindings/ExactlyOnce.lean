/-
  A debounced Binding is dispatched once per window.

  The Bindings and the labels of the devices are fixed and every List succeeds; calls and
  callbacks interleave freely.  `Page` is what the debounce entry of one (property, device)
  pair and the current window of the trace say about each other.

  `Owing` adds what the calls in progress still have to do: a top-specificity Binding that
  has neither fired nor a timer is on the list of some call.
-/
import IotController.Bindings.Dwell
import IotController.Bindings.Selection
import IotController.Foundation.Select

namespace IotController.Bindings

open Foundation Api

/-- `entry.fired[name]`, also when there is no entry. -/
def firedIn (entry : Option DebounceEntry) (name : String) : Bool :=
  entry.any fun e => e.isFired name

section Fixed

variable (st : Settings) (bindings : List Binding) (device : String → Device)

def Built (w : Candidate) : Prop := ∃ b ∈ bindings, candidateOf b = w

/-- The entry of a pair and its window in the trace, with `next` the number of the
next timer. -/
structure Page (next : Nat) (key : DebounceKey) (entry : Option DebounceEntry)
    (win : List Observation) : Prop where
  counted : ∀ name, win.countP (dispatches name) = (firedIn entry name).toNat
  built : ∀ w time, .dispatched key w time ∈ win → Built bindings w
  dwelt : ∀ e, entry = some e → ∀ w time, .dispatched key w time ∈ win →
    e.firstSeen + w.minDuration ≤ time
  located : ∀ e, entry = some e → e.device = some (device key.device)
  registered : ∀ e, entry = some e → ∀ name id, e.timers.lookup name = some id →
    .armed key name id ∈ win
  numbered : ∀ name id, .armed key name id ∈ win → id < next
  ended : ∀ job, .finished job ∈ win → job.id < next
  served : ∀ e, entry = some e → ∀ job, .finished job ∈ win →
    .armed key job.binding job.id ∈ win → ∀ b ∈ bindings, b.name = job.binding →
      0 < b.event.minDuration →
      bindingMatches b key.property e.value (device key.device) = true →
      e.firstSeen + b.event.minDuration + st.epsilon ≤ job.started →
      e.isFired job.binding = true

variable {st bindings device} {next : Nat} {key : DebounceKey} {win : List Observation}

namespace Page

theorem unseen : Page st bindings device next key none [] where
  counted _ := rfl
  built _ _ h := by cases h
  dwelt _ h := by cases h
  located _ h := by cases h
  registered _ h := by cases h
  numbered _ _ h := by cases h
  ended _ h := by cases h
  served _ h := by cases h

theorem reopen (value : String) (now : Time) :
    Page st bindings device next key
      (some { value := value, firstSeen := now, device := some (device key.device) }) [] where
  counted _ := rfl
  built _ _ h := by cases h
  dwelt _ _ _ _ h := by cases h
  located _ h := by rw [← Option.some.inj h]
  registered e h name id hid := by
    rw [← Option.some.inj h] at hid
    cases hid
  numbered _ _ h := by cases h
  ended _ h := by cases h
  served _ _ _ h := by cases h

theorem refresh {e : DebounceEntry} (h : Page st bindings device next key (some e) win) :
    Page st bindings device next key (some { e with device := some (device key.device) }) win where
  counted := h.counted
  built := h.built
  dwelt e' he' := by
    cases he'
    exact h.dwelt e rfl
  located e' he' := by rw [← Option.some.inj he']
  registered e' he' := by
    cases he'
    exact h.registered e rfl
  numbered := h.numbered
  ended := h.ended
  served e' he' := by
    cases he'
    exact h.served e rfl

theorem drop {e : DebounceEntry} (h : Page st bindings device next key (some e) win)
    (name : String) :
    Page st bindings device next key (some { e with timers := e.timers.erase name }) win where
  counted := h.counted
  built := h.built
  dwelt e' he' := by
    cases he'
    exact h.dwelt e rfl
  located e' he' := by
    cases he'
    exact h.located e rfl
  registered e' he' name' id hid := by
    cases he'
    rw [GoMap.lookup_erase_eq] at hid
    split at hid
    · cases hid
    · exact h.registered e rfl name' id hid
  numbered := h.numbered
  ended := h.ended
  served e' he' := by
    cases he'
    exact h.served e rfl

theorem finish {entry : Option DebounceEntry} (h : Page st bindings device next key entry win)
    {job : Job} (hid : job.id < next)
    (hserved : ∀ e, entry = some e → .armed key job.binding job.id ∈ win →
      ∀ b ∈ bindings, b.name = job.binding → 0 < b.event.minDuration →
        bindingMatches b key.property e.value (device key.device) = true →
        e.firstSeen + b.event.minDuration + st.epsilon ≤ job.started →
        e.isFired job.binding = true) :
    Page st bindings device next key entry (.finished job :: win) where
  counted name := (List.countP_cons_of_neg (by simp [dispatches])).trans (h.counted name)
  built w time hmem := h.built w time (by simpa using hmem)
  dwelt e he w time hmem := h.dwelt e he w time (by simpa using hmem)
  located := h.located
  registered e he name id hid' := List.mem_cons_of_mem _ (h.registered e he name id hid')
  numbered name id hmem := h.numbered name id (by simpa using hmem)
  ended job' hmem := by
    rcases List.mem_cons.mp hmem with heq | hmem
    · rw [Observation.finished.inj heq]
      exact hid
    · exact h.ended job' hmem
  served e he job' hmem harmed := by
    have harmed' : Observation.armed key job'.binding job'.id ∈ win := by simpa using harmed
    rcases List.mem_cons.mp hmem with heq | hmem
    · cases Observation.finished.inj heq
      exact hserved e he harmed'
    · exact h.served e he job' hmem harmed'

theorem arm {e : DebounceEntry} (h : Page st bindings device next key (some e) win)
    (name : String) :
    Page st bindings device (next + 1) key (some { e with timers := e.timers.insert name next })
      (.armed key name next :: win) where
  counted name' := (List.countP_cons_of_neg (by simp [dispatches])).trans (h.counted name')
  built w time hmem := h.built w time (by simpa using hmem)
  dwelt e' he' w time hmem := by
    cases he'
    exact h.dwelt e rfl w time (by simpa using hmem)
  located e' he' := by
    cases he'
    exact h.located e rfl
  registered e' he' name' id hid := by
    cases he'
    rw [GoMap.lookup_insert_eq] at hid
    split at hid
    · rename_i heq
      rw [heq, ← Option.some.inj hid]
      exact List.mem_cons_self
    · exact List.mem_cons_of_mem _ (h.registered e rfl name' id hid)
  numbered name' id hmem := by
    rcases List.mem_cons.mp hmem with heq | hmem
    · rw [(Observation.armed.inj heq).2.2]
      exact Nat.lt_succ_self next
    · exact Nat.lt_succ_of_lt (h.numbered name' id hmem)
  ended job hmem := Nat.lt_succ_of_lt (h.ended job (by simpa using hmem))
  served e' he' job hmem harmed := by
    cases he'
    have hmem' : Observation.finished job ∈ win := by simpa using hmem
    -- the new timer has no callback yet
    have hold : Observation.armed key job.binding job.id ∈ win := by
      rcases List.mem_cons.mp harmed with heq | harmed
      · exact absurd (Observation.armed.inj heq).2.2 (Nat.ne_of_lt (h.ended job hmem'))
      · exact harmed
    exact h.served e rfl job hmem' hold

theorem dispatch {e : DebounceEntry} (h : Page st bindings device next key (some e) win)
    {w : Candidate} (hbuilt : Built bindings w) (hduration : 0 < w.minDuration)
    {now time : Time} (helapsed : dwellElapsed e now w = true) (hread : now ≤ time) :
    Page st bindings device next key (some (e.markFired w.name))
      (.dispatched key w time :: win) where
  counted name := by
    have hfired : e.isFired w.name = false := by
      simpa using (Bool.and_eq_true_iff.mp helapsed).1
    have hcount := h.counted name
    simp only [firedIn, Option.any_some, isFired_markFired, dispatches, List.countP_cons] at hcount ⊢
    by_cases hname : name = w.name
    · subst hname
      simp [hcount, hfired]
    · simp [hcount, hname, Ne.symm hname]
  built w' time' hmem := by
    rcases List.mem_cons.mp hmem with heq | hmem
    · rw [(Observation.dispatched.inj heq).2.1]
      exact hbuilt
    · exact h.built w' time' hmem
  dwelt e' he' w' time' hmem := by
    cases he'
    rcases List.mem_cons.mp hmem with heq | hmem
    · obtain ⟨-, rfl, rfl⟩ := Observation.dispatched.inj heq
      have hsub : w'.minDuration ≤ Time.sub now e.firstSeen := by
        simpa using (Bool.and_eq_true_iff.mp helapsed).2
      exact le_trans (Time.add_le_of_le_sub hduration hsub) hread
    · exact h.dwelt e rfl w' time' hmem
  located e' he' := by
    cases he'
    exact h.located e rfl
  registered e' he' name id hid := by
    cases he'
    exact List.mem_cons_of_mem _ (h.registered e rfl name id hid)
  numbered name id hmem := h.numbered name id (by simpa using hmem)
  ended job hmem := h.ended job (by simpa using hmem)
  served e' he' job hmem harmed b hb hname hpos hmatch hlate := by
    cases he'
    rw [isFired_markFired, h.served e rfl job (by simpa using hmem) (by simpa using harmed) b hb
      hname hpos hmatch hlate, Bool.or_true]

theorem of_next_le {entry : Option DebounceEntry} {next' : Nat}
    (h : Page st bindings device next key entry win) (hle : next ≤ next') :
    Page st bindings device next' key entry win :=
  { h with
    numbered := fun name id hmem => lt_of_lt_of_le (h.numbered name id hmem) hle
    ended := fun job hmem => lt_of_lt_of_le (h.ended job hmem) hle }

end Page

/-! ## The pages after each section -/

variable (st bindings device) in
def Pages (m : Matcher) (trace : List Observation) : Prop :=
  ∀ key, Page st bindings device m.nextTimer key (m.debounce.lookup key) (window key trace)

variable {m : Matcher} {trace : List Observation}

theorem observeValue_nextTimer (m : Matcher) (now : Time) (property value : String)
    (d : Device) : (observeValue m now property value d).nextTimer = m.nextTimer := by
  unfold observeValue
  dsimp only
  split
  · split_ifs <;> rfl
  · rfl

theorem debounceDispatch_timers (m : Matcher) (now : Time) (w : Candidate) (key : DebounceKey) :
    (debounceDispatch m now w key).1.nextTimer = m.nextTimer ∧
      (debounceDispatch m now w key).1.armed = m.armed := by
  unfold debounceDispatch
  split
  · exact ⟨rfl, rfl⟩
  · split_ifs <;> exact ⟨rfl, rfl⟩

theorem scheduleDeferred_nextTimer (st : Settings) (m : Matcher) (now : Time) (w : Candidate)
    (key : DebounceKey) :
    (scheduleDeferred st m now w key).nextTimer =
      if ∃ e, m.debounce.lookup key = some e ∧ arms st e w = true then m.nextTimer + 1
      else m.nextTimer := by
  rw [scheduleDeferred_eq]
  cases m.debounce.lookup key with
  | none => simp
  | some e => by_cases harms : arms st e w = true <;> simp [harms]

theorem beginDeferred_timers (m : Matcher) (key : DebounceKey) (binding : String) :
    (beginDeferred m key binding).1.nextTimer = m.nextTimer ∧
      (beginDeferred m key binding).1.armed = m.armed := by
  unfold beginDeferred
  split
  · exact ⟨rfl, rfl⟩
  · dsimp only
    split_ifs <;> exact ⟨rfl, rfl⟩

theorem Pages.observe (h : Pages st bindings device m trace) {d : Device}
    (hd : d = device d.name) (time now : Time) (property value : String) :
    Pages st bindings device (observeValue m now property value d)
      (openedBy m time property value d ++ trace) := by
  intro key
  rw [observeValue_nextTimer, window_openedBy]
  by_cases hkey : key = ⟨property, d.name⟩
  · subst hkey
    by_cases hrecorded : m.recorded ⟨property, d.name⟩ = some value
    · have hpage := h ⟨property, d.name⟩
      obtain ⟨e, hlookup, hvalue⟩ := Option.map_eq_some_iff.mp hrecorded
      rw [if_neg fun h => h.1 hrecorded, lookup_observeValue]
      rw [hlookup] at hpage ⊢
      simp only [if_pos hvalue]
      have hrefresh := hpage.refresh
      rwa [← hd] at hrefresh
    · have hreopen := @Page.reopen st bindings device m.nextTimer ⟨property, d.name⟩ value now
      rw [if_pos ⟨hrecorded, rfl⟩, (opensWindow_observeValue hrecorded now).entry]
      rwa [← hd] at hreopen
  · rw [lookup_observeValue_of_ne hkey, if_neg fun h => hkey h.2]
    exact h key

variable {w : Candidate} {now : Time} {s s' : System} {a : Action} {e : DebounceEntry}

section

variable (h : Pages st bindings device m trace)
include h

theorem Pages.dispatch (hbuilt : Built bindings w)
    (hduration : 0 < w.minDuration) {time : Time} (hread : now ≤ time) (key : DebounceKey) :
    Pages st bindings device (debounceDispatch m now w key).1
      (dispatchedBy m time now w key ++ trace) := by
  intro key'
  rw [(debounceDispatch_timers _ _ _ _).1, lookup_debounceDispatch, window_dispatchedBy]
  have hpage := h key'
  by_cases hkey : key' = key
  · subst hkey
    rw [if_pos rfl]
    cases hlookup : m.debounce.lookup key' with
    | none =>
      rw [hlookup] at hpage
      simpa using hpage
    | some e =>
      rw [hlookup] at hpage
      by_cases helapsed : dwellElapsed e now w = true
      · simpa [helapsed] using hpage.dispatch hbuilt hduration helapsed hread
      · simpa [helapsed] using hpage
  · simpa [hkey] using hpage

theorem Pages.schedule (now : Time) (w : Candidate)
    (key : DebounceKey) :
    Pages st bindings device (scheduleDeferred st m now w key) (armedBy st m w key ++ trace) := by
  intro key'
  rw [scheduleDeferred_nextTimer, lookup_scheduleDeferred, window_armedBy]
  have hpage := h key'
  by_cases hkey : key' = key
  · subst hkey
    rw [if_pos rfl]
    cases hlookup : m.debounce.lookup key' with
    | none =>
      rw [hlookup] at hpage
      simpa using hpage
    | some e =>
      rw [hlookup] at hpage
      by_cases harms : arms st e w = true
      · simpa [harms] using hpage.arm w.name
      · simpa [harms] using hpage
  · simp only [hkey, if_false, false_and]
    exact hpage.of_next_le (by split_ifs <;> omega)

theorem Pages.begin (key : DebounceKey)
    (binding : String) :
    Pages st bindings device (beginDeferred m key binding).1 trace := by
  intro key'
  rw [(beginDeferred_timers _ _ _).1, lookup_beginDeferred]
  have hpage := h key'
  by_cases hkey : key' = key
  · subst hkey
    rw [if_pos rfl]
    cases hlookup : m.debounce.lookup key' with
    | none =>
      rw [hlookup] at hpage
      exact hpage
    | some =>
      rw [hlookup] at hpage
      exact hpage.drop binding
  · rw [if_neg hkey]
    exact hpage

theorem Pages.finish {job : Job}
    (hid : job.id < m.nextTimer)
    (hserved : ∀ e, m.debounce.lookup job.key = some e →
      .armed job.key job.binding job.id ∈ window job.key trace →
      ∀ b ∈ bindings, b.name = job.binding → 0 < b.event.minDuration →
        bindingMatches b job.key.property e.value (device job.key.device) = true →
        e.firstSeen + b.event.minDuration + st.epsilon ≤ job.started →
        e.isFired job.binding = true) :
    Pages st bindings device m (.finished job :: trace) := by
  intro key
  rw [window_finished]
  by_cases hkey : job.key = key
  · subst hkey
    rw [if_pos rfl]
    exact (h job.key).finish hid hserved
  · rw [if_neg hkey]
    exact h key

theorem Pages.returned (results : List Candidate) :
    Pages st bindings device m (.returned results :: trace) := by
  intro key
  rw [window_returned]
  exact h key

end

/-! ## Threads -/

variable (bindings device) in
/-- Bindings and devices are the fixed ones, and a callback of the current window carries the
recorded value. -/
def ThreadHolds (m : Matcher) (trace : List Observation) (now : Time) : Thread → Prop
  | .listing _ _ d => d = device d.name
  | .observing _ _ d l _ => d = device d.name ∧ l.Perm bindings
  | .looping _ _ _ ws => ∀ w ∈ ws, Built bindings w
  | .dispatching _ _ _ w rest _ => ∀ w' ∈ w :: rest, Built bindings w'
  | .scheduling _ _ _ _ rest => ∀ w ∈ rest, Built bindings w
  | .starting job => job.id < m.nextTimer ∧ job.started ≤ now
  | .relisting job value d =>
    job.id < m.nextTimer ∧ job.started ≤ now ∧ d = device job.key.device ∧
      (.armed job.key job.binding job.id ∈ window job.key trace → m.recorded job.key = some value)
  | .firing job _ d w read =>
    job.id < m.nextTimer ∧ job.started ≤ read ∧ d = device job.key.device ∧
      w.name = job.binding ∧ Built bindings w
  | .idle => True

/-- Time has passed, and no window that a known timer was armed in has changed its
value. -/
structure Later (s s' : System) : Prop where
  now : s.now ≤ s'.now
  next : s.matcher.nextTimer ≤ s'.matcher.nextTimer
  held : ∀ key name id, id < s.matcher.nextTimer →
    .armed key name id ∈ window key s'.trace →
      .armed key name id ∈ window key s.trace ∧ s'.matcher.recorded key = s.matcher.recorded key

theorem ThreadHolds.later (h : Later s s') {t : Thread}
    (ht : ThreadHolds bindings device s.matcher s.trace s.now t) :
    ThreadHolds bindings device s'.matcher s'.trace s'.now t := by
  cases t with
  | starting => exact ⟨lt_of_lt_of_le ht.1 h.next, le_trans ht.2 h.now⟩
  | relisting job =>
    obtain ⟨hid, hstarted, hd, hvalue⟩ := ht
    refine ⟨lt_of_lt_of_le hid h.next, le_trans hstarted h.now, hd, fun harmed => ?_⟩
    obtain ⟨harmed', hrecorded⟩ := h.held job.key job.binding job.id hid harmed
    exact hrecorded.trans (hvalue harmed')
  | firing =>
    obtain ⟨hid, hstarted, hd, hname, hbuilt⟩ := ht
    exact ⟨lt_of_lt_of_le hid h.next, hstarted, hd, hname, hbuilt⟩
  | _ => exact ht

theorem Later.refl (s : System) : Later s s := ⟨le_refl _, le_refl _, fun _ _ _ _ h => ⟨h, rfl⟩⟩

theorem later_become {i : Nat} {t : Thread} {m : Matcher} {seen : List Observation}
    (hdebounce : m.debounce = s.matcher.debounce) (hnext : m.nextTimer = s.matcher.nextTimer)
    (hseen : ∀ key name id, .armed key name id ∈ window key (seen ++ s.trace) →
      .armed key name id ∈ window key s.trace) :
    Later s (s.become i t m seen) where
  now := le_refl _
  next := le_of_eq hnext.symm
  held key name id _ harmed :=
    ⟨hseen key name id harmed, by rw [System.become_matcher, Matcher.recorded, hdebounce]; rfl⟩

theorem armed_mem_window_finished {key : DebounceKey} {name : String} {id : Nat} {job : Job}
    (h : .armed key name id ∈ window key (.finished job :: trace)) :
    .armed key name id ∈ window key trace := by
  rw [window_finished] at h
  split at h
  · simpa using h
  · exact h

theorem armed_mem_window_dispatchedBy {key key' : DebounceKey} {name : String} {id : Nat}
    {time : Time} (h : .armed key name id ∈ window key (dispatchedBy m time now w key' ++ trace)) :
    .armed key name id ∈ window key trace := by
  rw [window_dispatchedBy] at h
  split at h
  · simpa using h
  · exact h

theorem Effect.later (heffect : Effect st s a s') : Later s s' := by
  cases heffect with
  | stutter => exact Later.refl s
  | tick d =>
    exact ⟨le_add_of_nonneg_right (Int.natCast_nonneg d), le_refl _, fun _ _ _ _ h => ⟨h, rfl⟩⟩
  | call | listed | relisted | immediate | read | expire =>
    exact later_become rfl rfl fun _ _ _ h => h
  | listFailed | finish _ key =>
    exact later_become rfl rfl fun key _ _ h => by rwa [List.singleton_append, window_returned] at h
  | relistFailed | relistMissed =>
    exact later_become rfl rfl fun _ _ _ h => armed_mem_window_finished h
  | observe _ property value d _ now =>
    refine ⟨le_refl _, le_of_eq (observeValue_nextTimer _ _ _ _ _).symm,
      fun key name id _ harmed => ?_⟩
    rw [System.become_trace, window_openedBy] at harmed
    by_cases hkey : key = ⟨property, d.name⟩
    · subst hkey
      by_cases hrecorded : s.matcher.recorded ⟨property, d.name⟩ = some value
      · rw [if_neg fun h => h.1 hrecorded] at harmed
        exact ⟨harmed, (recorded_observeValue s.matcher now property value d).trans hrecorded.symm⟩
      · rw [if_pos ⟨hrecorded, rfl⟩] at harmed
        cases harmed
    · rw [if_neg fun h => hkey h.2] at harmed
      refine ⟨harmed, ?_⟩
      rw [System.become_matcher, Matcher.recorded, lookup_observeValue_of_ne hkey]
      rfl
  | dispatch =>
    exact ⟨le_refl _, le_of_eq (debounceDispatch_timers _ _ _ _).1.symm,
      fun key' _ _ _ harmed => ⟨armed_mem_window_dispatchedBy harmed,
        (continues_debounceDispatch _ _ _ _).recorded key'⟩⟩
  | schedule =>
    refine ⟨le_refl _, ?_, fun key' name id hid harmed =>
      ⟨?_, (continues_scheduleDeferred st _ _ _ _).recorded key'⟩⟩
    · rw [System.become_matcher, scheduleDeferred_nextTimer]
      split_ifs <;> omega
    · rw [System.become_trace, window_armedBy] at harmed
      split at harmed
      · -- the timer just armed has a new number
        rcases List.mem_cons.mp harmed with heq | harmed
        · exact absurd (Observation.armed.inj heq).2.2 (Nat.ne_of_lt hid)
        · exact harmed
      · exact harmed
  | beginDone =>
    exact ⟨le_refl _, le_of_eq (beginDeferred_timers _ _ _).1.symm,
      fun key' _ _ _ harmed => ⟨armed_mem_window_finished harmed,
        (continues_beginDeferred _ _ _).recorded key'⟩⟩
  | «begin» =>
    exact ⟨le_refl _, le_of_eq (beginDeferred_timers _ _ _).1.symm,
      fun key' _ _ _ harmed => ⟨harmed, (continues_beginDeferred _ _ _).recorded key'⟩⟩
  | fire =>
    exact ⟨le_refl _, le_of_eq (debounceDispatch_timers _ _ _ _).1.symm,
      fun key' _ _ _ harmed =>
        ⟨armed_mem_window_dispatchedBy (armed_mem_window_finished harmed),
          (continues_debounceDispatch _ _ _ _).recorded key'⟩⟩

/-! ## The invariant -/

variable (st bindings device) in
/-- The invariant of the interleaved system. -/
structure Settled (s : System) : Prop where
  pages : Pages st bindings device s.matcher s.trace
  reads : ∀ i, ThreadReads s.now (s.threads i)
  holds : ∀ i, ThreadHolds bindings device s.matcher s.trace s.now (s.threads i)
  timers : ∀ id t, s.matcher.armed.lookup id = some t → id < s.matcher.nextTimer

theorem Settled.held (h : Settled st bindings device s) {i : Nat} {t : Thread}
    (hi : s.threads i = t) : ThreadHolds bindings device s.matcher s.trace s.now t :=
  hi ▸ h.holds i

variable (bindings device) in
/-- The List returns the fixed Bindings, and devices keep their labels. -/
def Admitted : Action → Prop
  | .call _ ev => ∀ d, ev.device = some d → d = device d.name
  | .list _ none => False
  | .list _ (some l) => l.Perm bindings
  | _ => True

theorem beginDeferred_eq_some {key : DebounceKey} {binding value : String} {d : Device}
    (h : (beginDeferred m key binding).2 = some (value, d)) :
    ∃ e, m.debounce.lookup key = some e ∧ e.value = value ∧ e.device = some d := by
  unfold beginDeferred at h
  split at h
  · cases h
  · rename_i e hlookup
    dsimp only at h
    split_ifs at h
    obtain ⟨d', hdevice, heq⟩ := Option.map_eq_some_iff.mp h
    obtain ⟨rfl, rfl⟩ := Prod.mk.inj heq
    exact ⟨e, hlookup, rfl, hdevice⟩

theorem isFired_of_beginDeferred_eq_none {key : DebounceKey} {binding : String}
    (hlookup : m.debounce.lookup key = some e) (hdevice : e.device ≠ none)
    (h : (beginDeferred m key binding).2 = none) : e.isFired binding = true := by
  simp only [beginDeferred, hlookup] at h
  split_ifs at h with hfired
  · exact hfired
  · exact absurd (Option.map_eq_none_iff.mp h) hdevice

theorem findDeferred_of_mem {l : List Binding} (hnames : (l.map Binding.name).Nodup)
    {b : Binding} (hb : b ∈ l) {property value : String} {d : Device}
    (hmatch : bindingMatches b property value d = true) (hduration : 0 < b.event.minDuration) :
    findDeferred l b.name property value d = some (candidateOf b) := by
  have hfind : l.find? (fun x => x.name = b.name) = some b :=
    (find?_key_eq_some_iff hnames).mpr ⟨hb, rfl⟩
  unfold findDeferred
  rw [hfind]
  simp only [hmatch, Bool.true_eq_false, if_false, if_neg (not_le.mpr hduration)]

theorem isFired_after_debounceDispatch {key : DebounceKey}
    (hlookup : (debounceDispatch m now w key).1.debounce.lookup key = some e)
    (hrange : w.minDuration < 2 ^ 63) (hlate : e.firstSeen + w.minDuration ≤ now) :
    e.isFired w.name = true := by
  rw [lookup_debounceDispatch, if_pos rfl] at hlookup
  obtain ⟨e₀, -, rfl⟩ := Option.map_eq_some_iff.mp hlookup
  split_ifs at hlate ⊢ with helapsed
  · rw [isFired_markFired, decide_eq_true rfl, Bool.true_or]
  · by_contra hfired
    have hfired' : e₀.isFired w.name = false := by simpa using hfired
    refine helapsed ?_
    simp [dwellElapsed, hfired', Time.le_sub_of_add_le hrange hlate]

theorem eq_of_candidate_name (hnames : (bindings.map Binding.name).Nodup) (hw : Built bindings w)
    {b : Binding} (hb : b ∈ bindings) (hname : w.name = b.name) : w = candidateOf b := by
  obtain ⟨b', hb', rfl⟩ := hw
  exact congrArg candidateOf (List.inj_on_of_nodup_map hnames hb' hb hname)

theorem Settled.holds_effect (h : Settled st bindings device s) (heffect : Effect st s a s')
    (hadmitted : Admitted bindings device a) (j : Nat) :
    ThreadHolds bindings device s'.matcher s'.trace s'.now (s'.threads j) := by
  have hlater := heffect.later
  have hold := fun {i : Nat} (j : Nat) (_ : j ≠ i) => (h.holds j).later hlater
  cases heffect with
  | stutter => exact h.holds j
  | tick => exact (h.holds j).later hlater
  | call _ _ d _ hev => exact System.forall_become (hadmitted d hev) hold j
  | listFailed | relistFailed | relistMissed | finish | beginDone | fire =>
    exact System.forall_become trivial hold j
  | listed i _ _ _ _ hi =>
    have hi' := h.held hi
    exact System.forall_become (And.intro hi' hadmitted) hold j
  | relisted i _ _ _ l _ hi hfind =>
    have hi' := h.held hi
    obtain ⟨hid, hstarted, hd, -⟩ := hi'
    have hperm : l.Perm bindings := hadmitted
    obtain ⟨b, hb, hname, -, -, rfl⟩ := findDeferred_eq_some hfind
    exact System.forall_become (And.intro hid ⟨hstarted, hd, hname, b, hperm.mem_iff.mp hb, rfl⟩)
      hold j
  | observe i _ _ _ _ _ hi =>
    have hi' := h.held hi
    refine System.forall_become ?_ hold j
    intro w hw
    obtain ⟨b, hb, rfl⟩ := (mem_winners_iff st.sort).mp hw
    exact ⟨b, hi'.2.mem_iff.mp hb.mem, rfl⟩
  | immediate i _ _ _ _ _ hi =>
    have hi' := h.held hi
    refine System.forall_become ?_ hold j
    exact fun w' hw' => hi' w' (List.mem_cons_of_mem _ hw')
  | read i _ _ _ _ _ hi | schedule i _ _ _ _ _ hi =>
    have hi' := h.held hi
    refine System.forall_become ?_ hold j
    exact hi'
  | dispatch i _ _ _ _ _ _ _ hi ht =>
    have hi' := h.held hi
    refine System.forall_become ?_ hold j
    rw [ht]
    split_ifs
    · exact fun w' hw' => hi' w' (List.mem_cons_of_mem _ hw')
    · exact fun w' hw' => hi' w' (List.mem_cons_of_mem _ hw')
  | «begin» i job _ _ hi hbegin =>
    have hi' := h.held hi
    obtain ⟨e, hlookup, hvalue, hdev⟩ := beginDeferred_eq_some hbegin
    have hlocated := (h.pages job.key).located e hlookup
    refine System.forall_become ⟨?_, hi'.2, ?_, fun _ => ?_⟩ hold j
    · rw [System.become_matcher, (beginDeferred_timers _ _ _).1]
      exact hi'.1
    · exact Option.some.inj (hdev.symm.trans hlocated)
    · rw [System.become_matcher, (continues_beginDeferred _ _ _).recorded, Matcher.recorded,
        hlookup, ← hvalue]
      rfl
  | expire id _ t harmed =>
    exact System.forall_become (And.intro (h.timers id t harmed) (le_refl s.now)) hold j

theorem Effect.armed (heffect : Effect st s a s') {id : Nat} {t : ArmedTimer}
    (h : s'.matcher.armed.lookup id = some t) :
    s.matcher.armed.lookup id = some t ∨
      (id = s.matcher.nextTimer ∧ s.matcher.nextTimer < s'.matcher.nextTimer) := by
  cases heffect with
  | observe =>
    refine Or.inl ?_
    rw [System.become_matcher] at h
    unfold observeValue at h
    dsimp only at h
    split at h
    · split_ifs at h
      · exact h
      · exact lookup_of_lookup_stopAll h
    · exact h
  | dispatch | fire =>
    exact Or.inl ((debounceDispatch_timers _ _ _ _).2 ▸ h)
  | schedule =>
    rw [System.become_matcher] at h ⊢
    rw [scheduleDeferred_eq] at h ⊢
    split at h
    · exact Or.inl h
    · split_ifs at h ⊢ with harms
      · rw [Matcher.put_armed, GoMap.lookup_insert_eq] at h
        split at h
        · rename_i heq
          exact Or.inr ⟨heq, Nat.lt_succ_self _⟩
        · exact Or.inl h
      · exact Or.inl h
  | beginDone | «begin» =>
    exact Or.inl ((beginDeferred_timers _ _ _).2 ▸ h)
  | expire =>
    rw [System.become_matcher, GoMap.lookup_erase_eq] at h
    split at h
    · cases h
    · exact Or.inl h
  | _ => exact Or.inl h

theorem Settled.timers_effect (h : Settled st bindings device s) (heffect : Effect st s a s')
    (id : Nat) (t : ArmedTimer) (harmed : s'.matcher.armed.lookup id = some t) :
    id < s'.matcher.nextTimer := by
  rcases heffect.armed harmed with hold | ⟨rfl, hlt⟩
  · exact lt_of_lt_of_le (h.timers id t hold) heffect.later.next
  · exact hlt

/-! ## Calls in progress -/

/-- The thread has yet to dispatch or to schedule this Binding. -/
def Owes (key : DebounceKey) (name : String) : Thread → Prop
  | .looping key' _ _ ws => key' = key ∧ ∃ w ∈ ws, w.name = name
  | .dispatching key' _ _ w rest _ => key' = key ∧ ∃ w' ∈ w :: rest, w'.name = name
  | .scheduling key' _ _ w rest => key' = key ∧ ∃ w' ∈ w :: rest, w'.name = name
  | _ => False

variable (bindings device) in
/-- A top-specificity Binding of the recorded value has fired, has a timer of this window, or is
owed by a call. -/
def Owing (s : System) : Prop :=
  ∀ key e, s.matcher.debounce.lookup key = some e → ∀ b,
    Wins bindings key.property e.value (device key.device) b → 0 < b.event.minDuration →
      e.isFired b.name = true ∨ (∃ id, .armed key b.name id ∈ window key s.trace) ∨
        ∃ i, Owes key b.name (s.threads i)

theorem Owing.become (howing : Owing bindings device s) {i : Nat} {t : Thread} {m : Matcher}
    {seen : List Observation} (hcontinues : Continues s.matcher m)
    (hseen : ∀ key o, o ∈ window key s.trace → o ∈ window key (seen ++ s.trace))
    (howed : ∀ key e, m.debounce.lookup key = some e → ∀ b ∈ bindings, 0 < b.event.minDuration →
      Owes key b.name (s.threads i) → e.isFired b.name = true ∨
        (∃ id, .armed key b.name id ∈ window key (seen ++ s.trace)) ∨ Owes key b.name t) :
    Owing bindings device (s.become i t m seen) := by
  intro key e' hlookup' b hwins hduration
  have hrel := hcontinues key
  rw [System.become_matcher] at hlookup'
  rw [hlookup'] at hrel
  obtain ⟨e, hlookup, hextends⟩ : ∃ e, s.matcher.debounce.lookup key = some e ∧ Extends e e' := by
    cases hlookup : s.matcher.debounce.lookup key with
    | none =>
      rw [hlookup] at hrel
      cases hrel
    | some e =>
      rw [hlookup] at hrel
      exact ⟨e, rfl, Option.rel_some_some.mp hrel⟩
  rcases howing key e hlookup b (hextends.value ▸ hwins) hduration with
    hfired | ⟨id, harmed⟩ | ⟨j, hj⟩
  · exact Or.inl (hextends.fired b.name hfired)
  · exact Or.inr (Or.inl ⟨id, hseen key _ harmed⟩)
  · by_cases hji : j = i
    · subst hji
      rcases howed key e' hlookup' b hwins.mem hduration hj with hfired | harmed | howes
      · exact Or.inl hfired
      · exact Or.inr (Or.inl harmed)
      · refine Or.inr (Or.inr ⟨j, ?_⟩)
        show Owes key b.name (Function.update s.threads j t j)
        rwa [Function.update_self]
    · refine Or.inr (Or.inr ⟨j, ?_⟩)
      show Owes key b.name (Function.update s.threads i t j)
      rwa [Function.update_of_ne hji]

theorem mem_window_finished {key : DebounceKey} {o : Observation} (job : Job)
    (h : o ∈ window key trace) : o ∈ window key (.finished job :: trace) := by
  rw [window_finished]
  split
  · exact List.mem_cons_of_mem _ h
  · exact h

theorem mem_window_dispatchedBy {key key' : DebounceKey} {o : Observation} {time : Time}
    (h : o ∈ window key trace) : o ∈ window key (dispatchedBy m time now w key' ++ trace) := by
  rw [window_dispatchedBy]
  split
  · exact List.mem_cons_of_mem _ h
  · exact h

theorem mem_window_armedBy {key key' : DebounceKey} {o : Observation} (h : o ∈ window key trace) :
    o ∈ window key (armedBy st m w key' ++ trace) := by
  rw [window_armedBy]
  split
  · exact List.mem_cons_of_mem _ h
  · exact h

theorem armed_after_scheduleDeferred (hactivate : st.activateFn = true)
    (h : Pages st bindings device m trace) {key : DebounceKey}
    (hlookup : (scheduleDeferred st m now w key).debounce.lookup key = some e) :
    e.isFired w.name = true ∨
      ∃ id, .armed key w.name id ∈ window key (armedBy st m w key ++ trace) := by
  rw [lookup_scheduleDeferred, if_pos rfl] at hlookup
  obtain ⟨e₀, hlookup₀, rfl⟩ := Option.map_eq_some_iff.mp hlookup
  by_cases harms : arms st e₀ w = true
  · refine Or.inr ⟨m.nextTimer, ?_⟩
    rw [window_armedBy, if_pos ⟨rfl, e₀, hlookup₀, harms⟩]
    exact List.mem_cons_self
  · rw [if_neg harms]
    by_cases hfired : e₀.isFired w.name = true
    · exact Or.inl hfired
    · -- a timer is registered, so it was armed in this window
      cases htimer : e₀.timers.lookup w.name with
      | none => exact absurd (by simp [arms, hactivate, hfired, htimer]) harms
      | some id =>
        exact Or.inr ⟨id, mem_window_armedBy ((h key).registered e₀ hlookup₀ w.name id htimer)⟩

theorem isFired_of_debounceDispatch_ne {key : DebounceKey}
    (hlookup : (debounceDispatch m now w key).1.debounce.lookup key = some e)
    (h : (debounceDispatch m now w key).2 ≠ "") : e.isFired w.name = true := by
  rw [lookup_debounceDispatch, if_pos rfl] at hlookup
  obtain ⟨e₀, hlookup₀, rfl⟩ := Option.map_eq_some_iff.mp hlookup
  simp only [debounceDispatch, hlookup₀] at h
  split_ifs at h ⊢ with helapsed
  · rw [isFired_markFired, decide_eq_true rfl, Bool.true_or]
  · exact absurd rfl h

theorem Settled.owing_observe (h : Settled st bindings device s) (howing : Owing bindings device s)
    {i : Nat} {property value : String} {d : Device} {l : List Binding}
    (hi : s.threads i = .observing property value d l now) :
    Owing bindings device (s.become i
      (.looping ⟨property, d.name⟩ value [] (winners st.sort l property value d))
      (observeValue s.matcher now property value d)
      (openedBy s.matcher s.now property value d)) := by
  obtain ⟨hd, hperm⟩ := h.held hi
  -- the observing thread itself owed nothing
  have hothers : ∀ {key name t}, (∃ j, Owes key name (s.threads j)) →
      ∃ j, Owes key name (Function.update s.threads i t j) := by
    rintro key name t ⟨j, hj⟩
    refine ⟨j, ?_⟩
    rw [Function.update_of_ne]
    · exact hj
    · rintro rfl
      rw [hi] at hj
      exact hj
  intro key e hlookup b hwins hduration
  rw [System.become_matcher] at hlookup
  rw [System.become_trace, window_openedBy]
  by_cases hkey : key = ⟨property, d.name⟩
  · subst hkey
    by_cases hrecorded : s.matcher.recorded ⟨property, d.name⟩ = some value
    · obtain ⟨e₀, hlookup₀, hvalue⟩ := Option.map_eq_some_iff.mp hrecorded
      rw [lookup_observeValue, hlookup₀] at hlookup
      simp only [if_pos hvalue, Option.some.injEq] at hlookup
      subst hlookup
      rw [if_neg fun h => h.1 hrecorded]
      exact (howing _ e₀ hlookup₀ b hwins hduration).imp_right (Or.imp_right hothers)
    · rw [(opensWindow_observeValue hrecorded now).entry] at hlookup
      cases hlookup
      rw [← hd] at hwins
      have hmem : candidateOf b ∈ winners st.sort l property value d :=
        (mem_winners_iff st.sort).mpr ⟨b, (wins_congr hperm b).mpr hwins, rfl⟩
      refine Or.inr (Or.inr ⟨i, ?_⟩)
      show Owes _ b.name (Function.update s.threads i _ i)
      rw [Function.update_self]
      exact ⟨rfl, candidateOf b, hmem, rfl⟩
  · rw [lookup_observeValue_of_ne hkey] at hlookup
    rw [if_neg fun h => hkey h.2]
    exact (howing key e hlookup b hwins hduration).imp_right (Or.imp_right hothers)

section

variable (hnames : (bindings.map Binding.name).Nodup)
include hnames

theorem Settled.owing_effect
    (h : Settled st bindings device s) (howing : Owing bindings device s)
    (hactivate : st.activateFn = true) (heffect : Effect st s a s') : Owing bindings device s' := by
  have hnothing : ∀ {i : Nat} {t : Thread}, s.threads i = t → (∀ key name, ¬ Owes key name t) →
      ∀ {m : Matcher} {t' : Thread} {trace' : List Observation} (key : DebounceKey)
        (e : DebounceEntry), m.debounce.lookup key = some e → ∀ b ∈ bindings,
        0 < b.event.minDuration → Owes key b.name (s.threads i) → e.isFired b.name = true ∨
          (∃ id, .armed key b.name id ∈ window key trace') ∨ Owes key b.name t' :=
    fun hi hnot _ _ _ key _ _ b _ _ howes => absurd (hi ▸ howes) (hnot key b.name)
  cases heffect with
  | stutter | tick => exact howing
  | call _ _ _ hi | listed _ _ _ _ _ hi | relisted _ _ _ _ _ _ hi =>
    exact howing.become (Continues.refl _) (fun _ _ h => h) (hnothing hi fun _ _ h => h)
  | listFailed _ _ _ _ hi =>
    exact howing.become (Continues.refl _)
      (fun key _ h => by rwa [List.singleton_append, window_returned]) (hnothing hi fun _ _ h => h)
  | relistFailed _ job _ _ hi | relistMissed _ job _ _ _ hi =>
    exact howing.become (Continues.refl _) (fun _ _ h => mem_window_finished job h)
      (hnothing hi fun _ _ h => h)
  | observe _ _ _ _ _ _ hi => exact h.owing_observe howing hi
  | finish _ key _ _ hi =>
    refine howing.become (Continues.refl _)
      (fun key _ h => by rwa [List.singleton_append, window_returned])
      (hnothing hi fun _ _ howes => ?_)
    obtain ⟨-, w, hw, -⟩ := howes
    cases hw
  | immediate i _ _ _ _ _ hi hw =>
    have hi' := h.held hi
    refine howing.become (Continues.refl _) (fun _ _ h => h) fun key' e _ b hb hduration howes => ?_
    rw [hi] at howes
    obtain ⟨hkey, w', hw', hname⟩ := howes
    rcases List.mem_cons.mp hw' with rfl | hrest
    · -- a Binding with a MinDuration is not dispatched at once
      have heq := eq_of_candidate_name hnames (hi' w' List.mem_cons_self) hb hname
      rw [heq] at hw
      exact absurd hduration (not_lt.mpr hw)
    · exact Or.inr (Or.inr ⟨hkey, w', hrest, hname⟩)
  | read _ _ _ _ _ _ hi =>
    refine howing.become (Continues.refl _) (fun _ _ h => h) fun key' e _ b _ _ howes => ?_
    rw [hi] at howes
    exact Or.inr (Or.inr howes)
  | dispatch _ _ _ _ _ _ _ _ hi ht =>
    refine howing.become (continues_debounceDispatch _ _ _ _)
      (fun _ _ h => mem_window_dispatchedBy h) fun key' e hlookup b _ _ howes => ?_
    rw [hi] at howes
    obtain ⟨rfl, w', hw', hname⟩ := howes
    rw [ht]
    split_ifs with hempty
    · exact Or.inr (Or.inr ⟨rfl, w', hw', hname⟩)
    · rcases List.mem_cons.mp hw' with rfl | hrest
      · exact Or.inl (hname ▸ isFired_of_debounceDispatch_ne hlookup hempty)
      · exact Or.inr (Or.inr ⟨rfl, w', hrest, hname⟩)
  | schedule _ _ _ _ _ _ hi =>
    refine howing.become (continues_scheduleDeferred st _ _ _ _)
      (fun _ _ h => mem_window_armedBy h) fun key' e hlookup b _ _ howes => ?_
    rw [hi] at howes
    obtain ⟨rfl, w', hw', hname⟩ := howes
    rcases List.mem_cons.mp hw' with rfl | hrest
    · rw [← hname]
      rcases armed_after_scheduleDeferred hactivate h.pages hlookup with hfired | harmed
      · exact Or.inl hfired
      · exact Or.inr (Or.inl harmed)
    · exact Or.inr (Or.inr ⟨rfl, w', hrest, hname⟩)
  | beginDone _ job hi =>
    exact howing.become (continues_beginDeferred _ _ _)
      (fun _ _ h => mem_window_finished job h) (hnothing hi fun _ _ h => h)
  | «begin» _ _ _ _ hi =>
    exact howing.become (continues_beginDeferred _ _ _) (fun _ _ h => h)
      (hnothing hi fun _ _ h => h)
  | fire _ job _ _ _ _ hi =>
    exact howing.become (continues_debounceDispatch _ _ _ _)
      (fun _ _ h => mem_window_finished job (mem_window_dispatchedBy h))
      (hnothing hi fun _ _ h => h)
  | expire _ _ _ _ hi =>
    exact howing.become (Continues.of_debounce_eq rfl) (fun _ _ h => h) (hnothing hi fun _ _ h => h)

theorem Settled.pages_effect
    (hdevice : ∀ n, (device n).name = n) (h : Settled st bindings device s)
    (heffect : Effect st s a s') (hadmitted : Admitted bindings device a) :
    Pages st bindings device s'.matcher s'.trace := by
  cases heffect with
  | stutter | tick | call | listed | relisted | immediate | read | expire => exact h.pages
  | listFailed => exact h.pages.returned []
  | relistFailed =>
    exact hadmitted.elim
  | relistMissed i _ value _ l hi hfind =>
    have hi' := h.held hi
    obtain ⟨hid, -, hd, hvalue⟩ := hi'
    have hperm : l.Perm bindings := hadmitted
    refine h.pages.finish hid fun e hlookup harmed b hb hname hduration hmatch _ => ?_
    -- the callback carries the recorded value, so it would have found its Binding
    have hrecorded := hvalue harmed
    rw [Matcher.recorded, hlookup] at hrecorded
    rw [Option.some.inj hrecorded, ← hd] at hmatch
    have hfound := findDeferred_of_mem ((hperm.map Binding.name).nodup_iff.mpr hnames)
      (hperm.mem_iff.mpr hb) hmatch hduration
    rw [hname] at hfound
    rw [hfound] at hfind
    cases hfind
  | observe i property value _ _ now hi =>
    have hi' := h.held hi
    exact h.pages.observe hi'.1 s.now now property value
  | finish _ _ _ results => exact h.pages.returned results
  | dispatch i key _ _ w _ _ _ hi =>
    have hi' := h.held hi
    have hread : ThreadReads s.now _ := hi ▸ h.reads i
    exact h.pages.dispatch (hi' w List.mem_cons_self) hread.2.1 hread.2.2 key
  | schedule _ key _ _ w => exact h.pages.schedule s.now w key
  | beginDone i job hi hbegin =>
    have hi' := h.held hi
    refine (h.pages.begin job.key job.binding).finish
      (by rw [(beginDeferred_timers _ _ _).1]; exact hi'.1) fun e' hlookup' _ b _ _ _ _ _ => ?_
    rw [lookup_beginDeferred, if_pos rfl] at hlookup'
    obtain ⟨e, hlookup, rfl⟩ := Option.map_eq_some_iff.mp hlookup'
    show e.isFired job.binding = true
    refine isFired_of_beginDeferred_eq_none hlookup ?_ hbegin
    rw [(h.pages job.key).located e hlookup]
    exact Option.some_ne_none _
  | «begin» _ job => exact h.pages.begin job.key job.binding
  | fire i job _ _ w _ hi =>
    have hi' := h.held hi
    have hread : ThreadReads s.now _ := hi ▸ h.reads i
    obtain ⟨hid, hstarted, rfl, hname, hbuilt⟩ := hi'
    have hkey : (⟨job.key.property, (device job.key.device).name⟩ : DebounceKey) = job.key := by
      rw [hdevice]
    rw [hkey]
    refine (h.pages.dispatch hbuilt hread.2.1 hread.2.2 job.key).finish
      (by rw [(debounceDispatch_timers _ _ _ _).1]; exact hid)
      fun e hlookup _ b hb hbname _ _ hlate => ?_
    have hw : w = candidateOf b := eq_of_candidate_name hnames hbuilt hb (hname.trans hbname.symm)
    rw [← hname]
    refine isFired_after_debounceDispatch hlookup (hw ▸ b.event.minDuration_lt) ?_
    have hduration : w.minDuration = b.event.minDuration := by rw [hw]; rfl
    rw [hduration]
    exact le_trans (le_add_of_nonneg_right st.epsilon_nonneg) (le_trans hlate hstarted)

theorem Settled.effect
    (hdevice : ∀ n, (device n).name = n) (h : Settled st bindings device s)
    (heffect : Effect st s a s') (hadmitted : Admitted bindings device a) :
    Settled st bindings device s' where
  pages := h.pages_effect hnames hdevice heffect hadmitted
  reads := heffect.threadReads h.reads
  holds := h.holds_effect heffect hadmitted
  timers := h.timers_effect heffect

end

/-! ## Every run -/

def Thread.calling : Thread → Bool
  | .listing _ _ _ => true
  | .observing _ _ _ _ _ => true
  | .looping _ _ _ _ => true
  | .dispatching _ _ _ _ _ _ => true
  | .scheduling _ _ _ _ _ => true
  | _ => false

theorem Owes.calling {name : String} {t : Thread} (h : Owes key name t) : t.calling = true := by
  cases t <;> first | rfl | exact h.elim

variable (st bindings device) in
/-- A Binding with a MinDuration is dispatched at most once in a window.  In a window of a value
for which it has top specificity it is not dispatched early; once no call is in progress it has
been dispatched or has a timer; and once the callback of that timer has ended, run at its time
or later, it has been dispatched exactly once. -/
structure ExactlyOnce (s : System) : Prop where
  once : ∀ key name, dispatchCount key name s.trace ≤ 1
  notBefore : ∀ key e, s.matcher.debounce.lookup key = some e → ∀ b ∈ bindings,
    ∀ w time, w.name = b.name → .dispatched key w time ∈ window key s.trace →
      e.firstSeen + b.event.minDuration ≤ time
  pending : ∀ key e, s.matcher.debounce.lookup key = some e → ∀ b,
    Wins bindings key.property e.value (device key.device) b → 0 < b.event.minDuration →
      (∀ i, (s.threads i).calling = false) →
        dispatchCount key b.name s.trace = 1 ∨ ∃ id, .armed key b.name id ∈ window key s.trace
  done : ∀ key e, s.matcher.debounce.lookup key = some e → ∀ b,
    Wins bindings key.property e.value (device key.device) b → 0 < b.event.minDuration →
      ∀ job, job.binding = b.name → .armed key b.name job.id ∈ window key s.trace →
        .finished job ∈ window key s.trace →
        e.firstSeen + b.event.minDuration + st.epsilon ≤ job.started →
        dispatchCount key b.name s.trace = 1

theorem Settled.exactlyOnce (hnames : (bindings.map Binding.name).Nodup)
    (h : Settled st bindings device s) (howing : Owing bindings device s) :
    ExactlyOnce st bindings device s where
  once key name := by
    rw [dispatchCount, (h.pages key).counted name]
    exact Bool.toNat_le _
  notBefore key e hlookup b hb w time hname hmem := by
    have hw := eq_of_candidate_name hnames ((h.pages key).built w time hmem) hb hname
    have hdwelt := (h.pages key).dwelt e hlookup w time hmem
    rwa [hw] at hdwelt
  pending key e hlookup b hwins hduration hidle := by
    rcases howing key e hlookup b hwins hduration with hfired | harmed | ⟨i, hi⟩
    · refine Or.inl ?_
      rw [dispatchCount, (h.pages key).counted, firedIn, hlookup, Option.any_some, hfired]
      rfl
    · exact Or.inr harmed
    · exact absurd hi.calling (by simp [hidle i])
  done key e hlookup b hwins hduration job hname harmed hfinished hlate := by
    have hfired := (h.pages key).served e hlookup job hfinished (hname ▸ harmed) b hwins.mem
      hname.symm hduration hwins.matched hlate
    rw [dispatchCount, (h.pages key).counted, firedIn, hlookup, Option.any_some, ← hname, hfired]
    rfl

end Fixed

/-- **Debouncing dispatches exactly once.**  For fixed Bindings and device labels,
in every state that any interleaving of calls and callbacks reaches. -/
theorem debounce_exactly_once (st : Settings) (hactivate : st.activateFn = true)
    (bindings : List Binding) (hnames : (bindings.map Binding.name).Nodup)
    (device : String → Device) (hdevice : ∀ n, (device n).name = n) (now : Time)
    (actions : List Action) (hadmitted : ∀ a ∈ actions, Admitted bindings device a) :
    ExactlyOnce st bindings device (run (step st) (System.start now) actions) := by
  have hstart : Settled st bindings device (System.start now) ∧
      Owing bindings device (System.start now) :=
    ⟨⟨fun _ => Page.unseen, fun _ => trivial, fun _ => trivial, fun _ _ h => by cases h⟩,
      fun _ _ h => by cases h⟩
  have h := @run_invariant_of_mem _ _ (step st)
    (fun s => Settled st bindings device s ∧ Owing bindings device s) actions
    (fun s a ha hs => ⟨hs.1.effect hnames hdevice (effect_step st s a) (hadmitted a ha),
      hs.1.owing_effect hnames hs.2 hactivate (effect_step st s a)⟩) _ hstart
  exact h.1.exactlyOnce hnames h.2

def deferredLeak : List Action :=
  [.call 0 ⟨"water_leak", "true", some leakSensor⟩, .list 0 (some [leakBinding]), .advance 0,
    .advance 0, .advance 0, .advance 0, .advance 0, .tick 30100000000, .expire 0 1, .advance 1,
    .list 1 (some [leakBinding]), .advance 1]

theorem debounce_exactly_once_leak :
    dispatchCount ⟨"water_leak", "leak-sensor"⟩ "leak"
        (run (step deferredSettings) (System.start 0) deferredLeak).trace = 1 ∧
      ExactlyOnce deferredSettings [leakBinding] (fun n => { name := n })
        (run (step deferredSettings) (System.start 0) deferredLeak) := by
  refine ⟨by decide +kernel, debounce_exactly_once deferredSettings rfl [leakBinding] (by simp)
    (fun n => { name := n }) (fun _ => rfl) 0 deferredLeak fun a ha => ?_⟩
  simp only [deferredLeak, List.mem_cons, List.not_mem_nil, or_false] at ha
  rcases ha with rfl | rfl | rfl | rfl | rfl | rfl | rfl | rfl | rfl | rfl | rfl | rfl
  · rintro d hd
    cases hd
    rfl
  all_goals first
    | trivial
    | exact List.Perm.refl _

end IotController.Bindings
