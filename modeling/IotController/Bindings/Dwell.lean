/-
  When a dispatch is backed by the recorded value.

  A call reads the value of its event, and a callback the recorded value, long before
  `debounceDispatch` looks at the clock of the entry; `observeValue` reads the clock before
  it takes the lock.  `debounceDispatch` compares neither the value nor the reading with
  what it finds, so a transition that slips in between lends its dwell to a Binding that did
  not ask for it (`dispatched_for_another_value`).
-/
import IotController.Bindings.Interleaving

namespace IotController.Bindings

open Foundation Api

def lastOpened (key : DebounceKey) : List Observation → Option (String × Time)
  | [] => none
  | .opened key' value time :: earlier =>
    if key' = key then some (value, time) else lastOpened key earlier
  | _ :: earlier => lastOpened key earlier

/-- Every dispatch was for the value recorded at that moment, and for the MinDuration before
it. -/
def Dwelt : List Observation → Prop
  | [] => True
  | .dispatched key w time :: earlier =>
    (∃ value since, lastOpened key earlier = some (value, since) ∧
      propertyMatches w.trigger key.property value = true ∧ since + w.minDuration ≤ time) ∧
      Dwelt earlier
  | _ :: earlier => Dwelt earlier

/-- A dispatch finds the value it is for, and a window opens at the time that was read for it. -/
def Undisturbed (s : System) : Action → Prop
  | .advance i =>
    match s.threads i with
    | .observing property value d _ now =>
      s.matcher.recorded ⟨property, d.name⟩ = some value ∨ now = s.now
    | .dispatching key value _ _ _ _ => s.matcher.recorded key = some value
    | .firing job value d _ _ =>
      s.matcher.recorded ⟨job.key.property, d.name⟩ = some value
    | _ => True
  | _ => True

/-! ## What a thread has read -/

def ThreadReads (now : Time) : Thread → Prop
  | .looping key value _ ws => ∀ w ∈ ws, propertyMatches w.trigger key.property value = true
  | .dispatching key value _ w rest read =>
    (∀ w' ∈ w :: rest, propertyMatches w'.trigger key.property value = true) ∧
      0 < w.minDuration ∧ read ≤ now
  | .scheduling key value _ _ rest =>
    ∀ w ∈ rest, propertyMatches w.trigger key.property value = true
  | .firing job value _ w read =>
    propertyMatches w.trigger job.key.property value = true ∧ 0 < w.minDuration ∧ read ≤ now
  | _ => True

theorem ThreadReads.mono {now now' : Time} (h : now ≤ now') {t : Thread}
    (ht : ThreadReads now t) : ThreadReads now' t := by
  cases t with
  | dispatching | firing => exact ⟨ht.1, ht.2.1, le_trans ht.2.2 h⟩
  | _ => exact ht

variable {property value : String} {w : Candidate} {m : Matcher} {trace : List Observation}

theorem propertyMatches_of_mem_winners {sort : SliceSort} {bindings : List Binding} {d : Device}
    (h : w ∈ winners sort bindings property value d) :
    propertyMatches w.trigger property value = true := by
  obtain ⟨b, hb, rfl⟩ := (mem_winners_iff sort).mp h
  exact (Bool.and_eq_true_iff.mp hb.matched).1

theorem findDeferred_eq_some {bindings : List Binding} {binding : String} {d : Device}
    (h : findDeferred bindings binding property value d = some w) :
    ∃ b ∈ bindings, b.name = binding ∧ bindingMatches b property value d = true ∧
      0 < b.event.minDuration ∧ candidateOf b = w := by
  unfold findDeferred at h
  split at h
  · cases h
  · rename_i b hfind
    split_ifs at h with hmatch hduration
    exact ⟨b, List.mem_of_find?_eq_some hfind, by simpa using List.find?_some hfind,
      by simpa using hmatch, not_le.mp hduration, Option.some.inj h⟩

theorem Effect.threadReads {st : Settings} {s s' : System} {a : Action}
    (heffect : Effect st s a s') (h : ∀ i, ThreadReads s.now (s.threads i)) (j : Nat) :
    ThreadReads s'.now (s'.threads j) := by
  have hold := fun {i : Nat} (j : Nat) (_ : j ≠ i) => h j
  cases heffect with
  | stutter => exact h j
  | tick d => exact (h j).mono (le_add_of_nonneg_right (Int.natCast_nonneg d))
  | call | listFailed | listed | relistFailed | relistMissed | finish | beginDone | «begin»
  | fire | expire => exact System.forall_become trivial hold j
  | relisted _ job value d _ _ _ hfind =>
    obtain ⟨b, -, -, hmatch, hduration, rfl⟩ := findDeferred_eq_some hfind
    exact System.forall_become
      (show ThreadReads s.now (.firing job value d (candidateOf b) s.now) from
        ⟨(Bool.and_eq_true_iff.mp hmatch).1, hduration, le_refl s.now⟩) hold j
  | observe _ property value d =>
    exact System.forall_become
      (show ThreadReads s.now (.looping ⟨property, d.name⟩ value [] _) from
        fun w hw => propertyMatches_of_mem_winners hw) hold j
  | immediate i key value results w rest hi =>
    have hi' : ThreadReads s.now _ := hi ▸ h i
    exact System.forall_become
      (show ThreadReads s.now (.looping key value (results ++ [w]) rest) from
        fun w' hw' => hi' w' (List.mem_cons_of_mem _ hw')) hold j
  | read i key value results w rest hi hw =>
    have hi' : ThreadReads s.now _ := hi ▸ h i
    exact System.forall_become
      (show ThreadReads s.now (.dispatching key value results w rest s.now) from
        ⟨hi', hw, le_refl s.now⟩) hold j
  | dispatch i _ _ _ _ _ _ _ hi ht =>
    have hi' : ThreadReads s.now _ := hi ▸ h i
    refine System.forall_become ?_ hold j
    rw [ht]
    split_ifs
    · exact fun w' hw' => hi'.1 w' (List.mem_cons_of_mem _ hw')
    · exact fun w' hw' => hi'.1 w' (List.mem_cons_of_mem _ hw')
  | schedule i key value results _ rest hi =>
    have hi' : ThreadReads s.now _ := hi ▸ h i
    exact System.forall_become (show ThreadReads s.now (.looping key value results rest) from hi')
      hold j

/-! ## The invariant -/

/-- The recorded value and clock are those of the last window, and backed every dispatch so
far. -/
structure Backed (s : System) : Prop where
  threads : ∀ i, ThreadReads s.now (s.threads i)
  windows : ∀ key, lastOpened key s.trace =
    (s.matcher.debounce.lookup key).map fun e => (e.value, e.firstSeen)
  dwelt : Dwelt s.trace

theorem windows_of_continues {m' : Matcher} (h : Continues m m') (key : DebounceKey) :
    ((m'.debounce.lookup key).map fun e => (e.value, e.firstSeen)) =
      (m.debounce.lookup key).map fun e => (e.value, e.firstSeen) := by
  have hkey := h key
  revert hkey
  cases m.debounce.lookup key <;> cases m'.debounce.lookup key <;> rintro (hextends | _)
  · rfl
  · simp only [Option.map_some, hextends.value, hextends.firstSeen]

theorem windows_observeValue
    (h : ∀ key, lastOpened key trace = (m.debounce.lookup key).map fun e => (e.value, e.firstSeen))
    {time now : Time} {d : Device}
    (hcurrent : m.recorded ⟨property, d.name⟩ = some value ∨ now = time) (key : DebounceKey) :
    lastOpened key (openedBy m time property value d ++ trace) =
      ((observeValue m now property value d).debounce.lookup key).map
        fun e => (e.value, e.firstSeen) := by
  by_cases hkey : key = ⟨property, d.name⟩
  · subst hkey
    rw [lookup_observeValue]
    unfold openedBy
    by_cases hrecorded : m.recorded ⟨property, d.name⟩ = some value
    · obtain ⟨e, hlookup, hvalue⟩ := Option.map_eq_some_iff.mp hrecorded
      rw [if_pos hrecorded, List.nil_append, h, hlookup]
      simp only [Option.map_some, if_pos hvalue]
    · rw [if_neg hrecorded, hcurrent.resolve_left hrecorded]
      cases hlookup : m.debounce.lookup ⟨property, d.name⟩ with
      | none => simp [lastOpened]
      | some e =>
        have hvalue : e.value ≠ value := fun hvalue =>
          hrecorded (by rw [Matcher.recorded, hlookup, ← hvalue]; rfl)
        simp [lastOpened, hvalue]
  · rw [lookup_observeValue_of_ne hkey, ← h key]
    unfold openedBy
    split_ifs
    · rfl
    · simp [lastOpened, Ne.symm hkey]

theorem dwelt_dispatchedBy
    (hwindows : ∀ key,
      lastOpened key trace = (m.debounce.lookup key).map fun e => (e.value, e.firstSeen))
    (hdwelt : Dwelt trace) {time now : Time} {key : DebounceKey}
    (hrecorded : m.recorded key = some value)
    (hmatch : propertyMatches w.trigger key.property value = true) (hduration : 0 < w.minDuration)
    (hread : now ≤ time) : Dwelt (dispatchedBy m time now w key ++ trace) := by
  obtain ⟨e, hlookup, hvalue⟩ := Option.map_eq_some_iff.mp hrecorded
  simp only [dispatchedBy, hlookup]
  split_ifs with helapsed
  · refine ⟨⟨e.value, e.firstSeen, ?_, hvalue ▸ hmatch, ?_⟩, hdwelt⟩
    · exact (hwindows key).trans (by rw [hlookup]; rfl)
    · have hsub : w.minDuration ≤ Time.sub now e.firstSeen := by
        simpa using (Bool.and_eq_true_iff.mp helapsed).2
      exact le_trans (Time.add_le_of_le_sub hduration hsub) hread
  · exact hdwelt

theorem lastOpened_dispatchedBy (key' : DebounceKey) (m : Matcher) (time now : Time)
    (w : Candidate) (key : DebounceKey) (trace : List Observation) :
    lastOpened key' (dispatchedBy m time now w key ++ trace) = lastOpened key' trace := by
  unfold dispatchedBy
  split
  · rfl
  · split_ifs <;> rfl

theorem lastOpened_armedBy (key' : DebounceKey) (st : Settings) (m : Matcher) (w : Candidate)
    (key : DebounceKey) (trace : List Observation) :
    lastOpened key' (armedBy st m w key ++ trace) = lastOpened key' trace := by
  unfold armedBy
  split
  · rfl
  · split_ifs <;> rfl

theorem dwelt_armedBy {st : Settings} {key : DebounceKey} (h : Dwelt trace) :
    Dwelt (armedBy st m w key ++ trace) := by
  unfold armedBy
  split
  · exact h
  · split_ifs <;> exact h

theorem dwelt_openedBy {time : Time} {d : Device} (h : Dwelt trace) :
    Dwelt (openedBy m time property value d ++ trace) := by
  unfold openedBy
  split_ifs <;> exact h

theorem Effect.backed {st : Settings} {s s' : System} {a : Action}
    (heffect : Effect st s a s') (h : Backed s) (hundisturbed : Undisturbed s a) :
    Backed s' := by
  refine ⟨heffect.threadReads h.threads, ?_, ?_⟩
  · cases heffect with
    | observe _ _ _ _ _ _ hi =>
      simp only [Undisturbed, hi] at hundisturbed
      exact windows_observeValue h.windows hundisturbed
    | dispatch | fire =>
      intro key'
      exact (lastOpened_dispatchedBy key' _ _ _ _ _ _).trans ((h.windows key').trans
        (windows_of_continues (continues_debounceDispatch _ _ _ _) key').symm)
    | schedule =>
      intro key'
      exact (lastOpened_armedBy key' _ _ _ _ _).trans ((h.windows key').trans
        (windows_of_continues (continues_scheduleDeferred st _ _ _ _) key').symm)
    | beginDone | «begin» =>
      intro key'
      exact (h.windows key').trans (windows_of_continues (continues_beginDeferred _ _ _) key').symm
    | _ => exact h.windows
  · cases heffect with
    | observe => exact dwelt_openedBy h.dwelt
    | dispatch i _ _ _ w _ _ _ hi =>
      have hi' : ThreadReads s.now _ := hi ▸ h.threads i
      simp only [Undisturbed, hi] at hundisturbed
      exact dwelt_dispatchedBy h.windows h.dwelt hundisturbed
        (hi'.1 w List.mem_cons_self) hi'.2.1 hi'.2.2
    | schedule => exact dwelt_armedBy h.dwelt
    | fire i _ _ _ _ _ hi =>
      have hi' : ThreadReads s.now _ := hi ▸ h.threads i
      simp only [Undisturbed, hi] at hundisturbed
      exact dwelt_dispatchedBy h.windows h.dwelt hundisturbed hi'.1 hi'.2.1 hi'.2.2
    | _ => exact h.dwelt

/-- **Dwell soundness without disturbance.**  In every run whose dispatches find the value they
are for and whose windows open at a current clock, every dispatch was for the value recorded at
that moment, and for the MinDuration before it. -/
theorem dwell_sound (st : Settings) (now : Time) (actions : List Action)
    (hundisturbed : Along (step st) Undisturbed (System.start now) actions) :
    (∀ key, (lastOpened key (run (step st) (System.start now) actions).trace).map Prod.fst =
        (run (step st) (System.start now) actions).matcher.recorded key) ∧
      Dwelt (run (step st) (System.start now) actions).trace := by
  have hstart : Backed (System.start now) := ⟨fun _ => trivial, fun _ => rfl, trivial⟩
  have h := @invariant_of_along _ _ (step st) Undisturbed Backed
    (fun s a hs ha => (effect_step st s a).backed hs ha) _ _ hstart hundisturbed
  refine ⟨fun key => ?_, h.dwelt⟩
  rw [h.windows, Option.map_map]
  rfl

def slowLeak : List Action :=
  [.call 0 ⟨"water_leak", "true", some leakSensor⟩, .list 0 (some [leakBinding]), .advance 0,
    .tick 30000000000, .advance 0, .advance 0]

theorem dwell_sound_slowLeak :
    dispatchCount ⟨"water_leak", "leak-sensor"⟩ "leak"
        (run (step inlineSettings) (System.start 0) slowLeak).trace = 1 ∧
      Dwelt (run (step inlineSettings) (System.start 0) slowLeak).trace :=
  ⟨by decide +kernel, (dwell_sound inlineSettings 0 slowLeak
    ⟨trivial, trivial, Or.inr rfl, trivial, trivial, rfl, trivial⟩).2⟩

/-- A call for a leak is overtaken by the report that it has ended, and goes on half a minute
later. -/
def overtakenLeak : List Action :=
  [.call 0 ⟨"water_leak", "true", some leakSensor⟩, .list 0 (some [leakBinding]), .advance 0,
    .call 1 ⟨"water_leak", "false", some leakSensor⟩, .list 1 (some [leakBinding]), .advance 1,
    .tick 30000000000, .advance 0, .advance 0]

/-- The Binding for a leak is dispatched when no leak has been recorded for half a
minute. -/
theorem dispatched_for_another_value :
    (run (step inlineSettings) (System.start 0) overtakenLeak).matcher.recorded
        ⟨"water_leak", "leak-sensor"⟩ = some "false" ∧
      (run (step inlineSettings) (System.start 0) overtakenLeak).trace.head? =
        some (.dispatched ⟨"water_leak", "leak-sensor"⟩ (candidateOf leakBinding) 30000000000) ∧
      ¬ Dwelt (run (step inlineSettings) (System.start 0) overtakenLeak).trace := by
  have htrace : (run (step inlineSettings) (System.start 0) overtakenLeak).trace =
      [.dispatched ⟨"water_leak", "leak-sensor"⟩ (candidateOf leakBinding) 30000000000,
        .opened ⟨"water_leak", "leak-sensor"⟩ "false" 0,
        .opened ⟨"water_leak", "leak-sensor"⟩ "true" 0] := rfl
  refine ⟨by decide +kernel, by rw [htrace]; rfl, ?_⟩
  rw [htrace]
  rintro ⟨⟨value, since, hlast, hmatch, -⟩, -⟩
  have hvalue : value = "false" := by
    simp only [lastOpened, if_true, Option.some.injEq, Prod.mk.injEq] at hlast
    exact hlast.1.symm
  subst hvalue
  exact absurd hmatch (by decide +kernel)

end IotController.Bindings
