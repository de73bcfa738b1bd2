/-
  Finite runs of a step function and their invariants.

  A system is a step function `step : σ → ε → σ`; whatever the environment decides (which
  call arrives, which request fails, what the clock reads) is part of the event or of a
  parameter of `step`.  A run is a list of events.

  `Along step guard s events` says that every event of the run is taken in a state that
  admits it.
-/
import Mathlib.Tactic

namespace IotController.Foundation

universe u v

variable {σ : Type u} {ε : Type v}

def run (step : σ → ε → σ) (s : σ) (events : List ε) : σ := events.foldl step s

@[simp] theorem run_nil (step : σ → ε → σ) (s : σ) : run step s [] = s := rfl

@[simp] theorem run_cons (step : σ → ε → σ) (s : σ) (e : ε) (events : List ε) :
    run step s (e :: events) = run step (step s e) events := rfl

theorem run_append (step : σ → ε → σ) (s : σ) (first second : List ε) :
    run step s (first ++ second) = run step (run step s first) second :=
  List.foldl_append

/-- Every event of the run is admitted by `guard` in the state it is taken in. -/
def Along (step : σ → ε → σ) (guard : σ → ε → Prop) : σ → List ε → Prop
  | _, [] => True
  | s, e :: events => guard s e ∧ Along step guard (step s e) events

/-- **The invariant rule.**  What every admitted step keeps, every admitted run
keeps. -/
theorem invariant_of_along {step : σ → ε → σ} {guard : σ → ε → Prop} {inv : σ → Prop}
    (preserves : ∀ s e, inv s → guard s e → inv (step s e)) {s : σ} {events : List ε}
    (initial : inv s) (admitted : Along step guard s events) :
    inv (run step s events) := by
  induction events generalizing s with
  | nil => exact initial
  | cons e _ ih => exact ih (preserves s e initial admitted.1) admitted.2

theorem run_invariant_of_mem {step : σ → ε → σ} {inv : σ → Prop} {events : List ε}
    (preserves : ∀ s, ∀ e ∈ events, inv s → inv (step s e)) {s : σ} (initial : inv s) :
    inv (run step s events) :=
  List.foldlRecOn events step initial fun s hs e he => preserves s e he hs

theorem run_invariant {step : σ → ε → σ} {inv : σ → Prop}
    (preserves : ∀ s e, inv s → inv (step s e)) {s : σ} (initial : inv s)
    (events : List ε) : inv (run step s events) :=
  run_invariant_of_mem (fun s e _ => preserves s e) initial

variable {step : σ → ε → σ} {guard : σ → ε → Prop} {s : σ} {events : List ε}

theorem Along.imp {guard' : σ → ε → Prop} (h : ∀ s e, guard s e → guard' s e)
    (admitted : Along step guard s events) : Along step guard' s events := by
  induction events generalizing s with
  | nil => trivial
  | cons e _ ih => exact ⟨h s e admitted.1, ih admitted.2⟩

theorem Along.and_mem (admitted : Along step guard s events) :
    Along step (fun s e => guard s e ∧ e ∈ events) s events := by
  -- the rest of the run is among the events of the whole
  have hpart : ∀ (rest : List ε) (s : σ), rest ⊆ events → Along step guard s rest →
      Along step (fun s e => guard s e ∧ e ∈ events) s rest := by
    intro rest
    induction rest with
    | nil => exact fun _ _ _ => trivial
    | cons e _ ih =>
      rintro s hsub ⟨hguard, halong⟩
      obtain ⟨hmem, hsub⟩ := List.cons_subset.mp hsub
      exact ⟨⟨hguard, hmem⟩, ih (step s e) hsub halong⟩
  exact hpart events s (List.Subset.refl _) admitted

/-- **The exchange rule.**  Guards that say the same wherever an invariant holds
admit the same runs. -/
theorem along_iff_along {guard' : σ → ε → Prop} {inv : σ → Prop}
    (exchange : ∀ s e, inv s → (guard s e ↔ guard' s e))
    (preserves : ∀ s e, inv s → guard s e → inv (step s e)) (initial : inv s) (events : List ε) :
    Along step guard s events ↔ Along step guard' s events := by
  induction events generalizing s with
  | nil => exact Iff.rfl
  | cons e _ ih =>
    constructor
    · rintro ⟨hfirst, hrest⟩
      exact ⟨(exchange s e initial).mp hfirst, (ih (preserves s e initial hfirst)).mp hrest⟩
    · rintro ⟨hfirst, hrest⟩
      have hguard := (exchange s e initial).mpr hfirst
      exact ⟨hguard, (ih (preserves s e initial hguard)).mpr hrest⟩

/-- **The comparison rule.**  Two systems that agree after an event exactly when `guard` admits
it agree all along a run exactly when every event is admitted. -/
theorem agree_iff_along {τ : Type*} {β : Type*} {step' : τ → ε → τ} {view : σ → β} {view' : τ → β}
    {rel : σ → τ → Prop} (agree : ∀ s t, rel s t → view s = view' t)
    (compare : ∀ s t, ∀ e ∈ events, rel s t → (view (step s e) = view' (step' t e) ↔ guard s e))
    (keep : ∀ s t, ∀ e ∈ events, rel s t → guard s e → rel (step s e) (step' t e)) {t : τ}
    (start : rel s t) :
    (∀ n, view (run step s (events.take n)) = view' (run step' t (events.take n))) ↔
      Along step guard s events := by
  induction events generalizing s t with
  | nil => exact ⟨fun _ => trivial, fun _ _ => by simpa using agree s t start⟩
  | cons e _ ih =>
    have hfirst := compare s t e List.mem_cons_self start
    have hrest := fun hguard =>
      ih (fun s t e he => compare s t e (List.mem_cons_of_mem _ he))
        (fun s t e he => keep s t e (List.mem_cons_of_mem _ he))
        (keep s t e List.mem_cons_self start hguard)
    constructor
    · intro h
      have hguard := hfirst.mp (h 1)
      exact ⟨hguard, (hrest hguard).mp fun n => h (n + 1)⟩
    · rintro ⟨hguard, halong⟩ (_ | n)
      · exact agree s t start
      · exact (hrest hguard).mpr halong n

/-- **The exact property rule.**  When a step from a good state has the property exactly if
`guard` admits it, and then leads to a good state, a run has it all along exactly if every event
is admitted. -/
theorem property_iff_along {good prop : σ → Prop} (sound : ∀ s, good s → prop s)
    (exact : ∀ s, ∀ e ∈ events, good s → (prop (step s e) ↔ guard s e))
    (keep : ∀ s, ∀ e ∈ events, good s → guard s e → good (step s e)) (initial : good s) :
    (∀ n, prop (run step s (events.take n))) ↔ Along step guard s events := by
  have hagree := @agree_iff_along σ ε step guard s events Unit Prop (fun _ _ => ()) prop
    (fun _ => True) (fun s _ => good s) (fun s _ hs => eq_true (sound s hs))
    (fun s _ e he hs => (Iff.intro of_eq_true eq_true).trans (exact s e he hs))
    (fun s _ e he => keep s e he) () initial
  simpa only [eq_iff_iff, iff_true] using hagree

/-- **The exact invariant rule.**  When a step keeps the invariant exactly if `guard` admits it,
a run does exactly if every event is admitted. -/
theorem invariant_iff_along {inv : σ → Prop}
    (preserves : ∀ s, ∀ e ∈ events, inv s → (inv (step s e) ↔ guard s e)) (initial : inv s) :
    (∀ n, inv (run step s (events.take n))) ↔ Along step guard s events :=
  property_iff_along (fun _ h => h) preserves
    (fun s e he hinv hguard => (preserves s e he hinv).mpr hguard) initial

/-- **The simulation rule.**  Two systems whose steps keep a relation keep it all along
a run. -/
theorem run_simulation {τ : Type*} {step' : τ → ε → τ} {rel : σ → τ → Prop}
    (preserves : ∀ s t e, rel s t → rel (step s e) (step' t e)) {t : τ} (initial : rel s t)
    (events : List ε) : rel (run step s events) (run step' t events) :=
  List.foldl_rel initial fun e _ s t h => preserves s t e h

theorem run_view_of_others {β : Type*} {step : σ → ε → σ} {view : σ → β} {events : List ε}
    (other : ∀ s, ∀ e ∈ events, view (step s e) = view s) (s : σ) :
    view (run step s events) = view s :=
  @run_invariant_of_mem _ _ step (fun t => view t = view s) events
    (fun t e he h => (other t e he).trans h) s rfl

theorem run_view_of_own {β : Type*} {step : σ → ε → σ} {view : σ → β} {f : β → β} {own : ε}
    {events : List ε} (mine : ∀ s, view (step s own) = f (view s))
    (other : ∀ s, ∀ e ∈ events, e ≠ own → view (step s e) = view s) (distinct : events.Nodup)
    (mem : own ∈ events) (s : σ) : view (run step s events) = f (view s) := by
  induction events generalizing s with
  | nil => cases mem
  | cons e rest ih =>
    rw [List.nodup_cons] at distinct
    have hlater : ∀ s, ∀ e ∈ rest, e ≠ own → view (step s e) = view s :=
      fun s e he => other s e (List.mem_cons_of_mem _ he)
    rw [run_cons]
    rcases List.mem_cons.mp mem with rfl | hrest
    · rw [run_view_of_others fun s e he => hlater s e he fun h => distinct.1 (h ▸ he)]
      exact mine s
    · rw [ih hlater distinct.2 hrest, other s e List.mem_cons_self]
      exact fun h => distinct.1 (h ▸ hrest)

/-- **The progress rule.**  When every unsettled state admits a step that lowers the measure,
some admitted run settles. -/
theorem exists_settled_run {inv settled : σ → Prop} (measure : σ → Nat)
    (progress : ∀ s, inv s → ¬ settled s →
      ∃ e, guard s e ∧ inv (step s e) ∧ measure (step s e) < measure s)
    (s : σ) (initial : inv s) :
    ∃ events, Along step guard s events ∧ settled (run step s events) := by
  by_cases hs : settled s
  · exact ⟨[], trivial, hs⟩
  · obtain ⟨e, hguard, hinv, hlt⟩ := progress s initial hs
    obtain ⟨events, hadmitted, hsettled⟩ := exists_settled_run measure progress (step s e) hinv
    exact ⟨e :: events, ⟨hguard, hadmitted⟩, hsettled⟩
termination_by measure s

theorem length_le_measure (measure : σ → Nat)
    (decreases : ∀ s e, guard s e → measure (step s e) < measure s)
    (admitted : Along step guard s events) : events.length ≤ measure s := by
  induction events generalizing s with
  | nil => exact Nat.zero_le _
  | cons e _ ih => exact Nat.lt_of_le_of_lt (ih admitted.2) (decreases s e admitted.1)

end IotController.Foundation
