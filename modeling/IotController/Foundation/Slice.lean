/-
  Slices with bounds checks.

  An index or a slice expression outside the data is a panic, which ends the program.
  Computations that may panic are written with the accesses at the places where the program
  has them; such a computation is safe when it is shown to be `.ok` of a total one
  (`index_ok`, `slice_ok`, `foldlM_ok`, `mapM_ok`).
-/
import IotController.Foundation.Run

namespace IotController.Foundation

universe u v

/-- The reasons for a panic. -/
inductive Panic where
  | index (i : Int) (length : Nat)
  | slice (lo hi : Int) (length : Nat)
  /-- a field of what a nil pointer points to -/
  | nilPointer
  /-- a call of `panic`, of the program or of its library -/
  | raised (message : String)
  deriving DecidableEq, Repr

abbrev Checked (α : Type u) : Type u := Except Panic α

section

variable {α : Type u} {β : Type v} {σ : Type v}

theorem ok_bind {β : Type u} (a : α) (f : α → Checked β) : (Except.ok a >>= f) = f a := rfl

theorem ite_ok {c : Prop} [Decidable c] {x y : Checked α} {a b : α} (hx : c → x = .ok a)
    (hy : ¬ c → y = .ok b) : (if c then x else y) = .ok (if c then a else b) := by
  split
  · exact hx ‹c›
  · exact hy ‹¬ c›

theorem bind_panics {β : Type u} {x : Checked α} (h : ∃ panic, x = .error panic)
    (f : α → Checked β) : ∃ panic, (x >>= f) = .error panic := by
  obtain ⟨panic, rfl⟩ := h
  exact ⟨panic, rfl⟩

theorem bind_panics_later {β : Type u} (x : Checked α) {f : α → Checked β}
    (h : ∀ a, ∃ panic, f a = .error panic) : ∃ panic, (x >>= f) = .error panic := by
  cases x with
  | error panic => exact ⟨panic, rfl⟩
  | ok a => exact h a

theorem bind_returns {β : Type u} {x : Checked α} (hx : ∃ a, x = .ok a) {f : α → Checked β}
    (hf : ∀ a, ∃ b, f a = .ok b) : ∃ b, (x >>= f) = .ok b := by
  obtain ⟨a, rfl⟩ := hx
  exact hf a

theorem map_panics {x : Checked α} (h : ∃ panic, x = .error panic) (f : α → β) :
    ∃ panic, x.map f = .error panic := by
  obtain ⟨panic, rfl⟩ := h
  exact ⟨panic, rfl⟩

def index (l : List α) (i : Int) : Checked α :=
  if 0 ≤ i then
    match l[i.toNat]? with
    | some a => .ok a
    | none => .error (.index i l.length)
  else .error (.index i l.length)

def slice (l : List α) (lo hi : Int) : Checked (List α) :=
  if 0 ≤ lo ∧ lo ≤ hi ∧ hi ≤ l.length then .ok ((l.take hi.toNat).drop lo.toNat)
  else .error (.slice lo hi l.length)

def sliceFrom (l : List α) (lo : Int) : Checked (List α) := slice l lo l.length

def sliceTo (l : List α) (hi : Int) : Checked (List α) := slice l 0 hi

variable {l : List α} {f : σ → α → Checked σ}

theorem index_ok {i : Int} (hi : 0 ≤ i) (hlt : i < l.length) (d : α) :
    index l i = .ok (l.getD i.toNat d) := by
  have hget : i.toNat < l.length := by omega
  rw [index, if_pos hi, List.getD_eq_getElem?_getD, List.getElem?_eq_getElem hget]
  rfl

theorem slice_ok {lo hi : Int} (hlo : 0 ≤ lo) (hle : lo ≤ hi) (hhi : hi ≤ l.length) :
    slice l lo hi = .ok ((l.take hi.toNat).drop lo.toNat) :=
  if_pos ⟨hlo, hle, hhi⟩

theorem sliceFrom_ok {lo : Int} (hlo : 0 ≤ lo) (hle : lo ≤ l.length) :
    sliceFrom l lo = .ok (l.drop lo.toNat) := by
  rw [sliceFrom, slice_ok hlo hle le_rfl, Int.toNat_natCast, List.take_length]

theorem sliceTo_ok {hi : Int} (hpos : 0 ≤ hi) (hhi : hi ≤ l.length) :
    sliceTo l hi = .ok (l.take hi.toNat) :=
  slice_ok le_rfl hpos hhi

theorem index_returns {i : Int} (hi : 0 ≤ i) (hlt : i < l.length) : ∃ a, index l i = .ok a := by
  have hget : i.toNat < l.length := by omega
  exact ⟨_, index_ok hi hlt (l.get ⟨i.toNat, hget⟩)⟩

theorem slice_panics {lo hi : Int} (h : l.length < hi) : ∃ panic, slice l lo hi = .error panic :=
  ⟨.slice lo hi l.length, if_neg fun hin => by omega⟩

theorem index_panics {i : Int} (h : l.length ≤ i) : ∃ panic, index l i = .error panic := by
  have hget : l.length ≤ i.toNat := by omega
  refine ⟨.index i l.length, ?_⟩
  rw [index, if_pos (by omega), List.getElem?_eq_none hget]

theorem sliceFrom_panics {lo : Int} (h : l.length < lo) : ∃ panic, sliceFrom l lo = .error panic :=
  ⟨.slice lo l.length l.length, if_neg fun hin => by omega⟩

theorem drop_eq_getD_cons {i : Nat} (hi : i < l.length) (d : α) :
    l.drop i = l.getD i d :: l.drop (i + 1) := by
  rw [List.drop_eq_getElem_cons hi, List.getD_eq_getElem?_getD, List.getElem?_eq_getElem hi]
  rfl

theorem foldlM_ok {g : σ → α → σ} (h : ∀ s a, f s a = .ok (g s a)) (l : List α) (s : σ) :
    l.foldlM f s = .ok (l.foldl g s) := by
  induction l generalizing s with
  | nil => rfl
  | cons a _ ih =>
    rw [List.foldlM_cons, h]
    exact ih (g s a)

theorem foldlM_invariant {P : σ → Prop} (hstep : ∀ s a s', P s → f s a = .ok s' → P s') {s s' : σ}
    (hs : P s) (h : l.foldlM f s = .ok s') : P s' := by
  induction l generalizing s with
  | nil =>
    obtain rfl : s = s' := Except.ok.inj h
    exact hs
  | cons a _ ih =>
    rw [List.foldlM_cons] at h
    cases hturn : f s a with
    | error =>
      rw [hturn] at h
      cases h
    | ok next =>
      rw [hturn] at h
      exact ih (hstep s a next hs hturn) h

theorem foldlM_safe_iff_along {g : σ → α → σ} {guard : σ → α → Prop}
    (safe : ∀ s a, guard s a → f s a = .ok (g s a))
    (panics : ∀ s a, ¬ guard s a → ∃ panic, f s a = .error panic) (l : List α) (s : σ) :
    (∀ panic, l.foldlM f s ≠ .error panic) ↔ Along g guard s l := by
  induction l generalizing s with
  | nil => exact ⟨fun _ => trivial, fun _ _ h => nomatch h⟩
  | cons a _ ih =>
    rw [List.foldlM_cons]
    constructor
    · intro h
      by_cases hguard : guard s a
      · rw [safe s a hguard] at h
        exact ⟨hguard, (ih (g s a)).mp h⟩
      · obtain ⟨panic, hpanic⟩ := panics s a hguard
        rw [hpanic] at h
        exact absurd rfl (h panic)
    · rintro ⟨hguard, hrest⟩
      rw [safe s a hguard]
      exact (ih (g s a)).mpr hrest

theorem mapM_ok {f : α → Checked β} {g : α → β} (h : ∀ a ∈ l, f a = .ok (g a)) :
    l.mapM f = .ok (l.map g) := by
  induction l with
  | nil => rfl
  | cons a _ ih =>
    rw [List.mapM_cons, h a List.mem_cons_self, ih fun b hb => h b (List.mem_cons_of_mem _ hb)]
    rfl

theorem mapM_panics {f : α → Checked β} {a : α} (ha : a ∈ l) (h : ∃ panic, f a = .error panic) :
    ∃ panic, l.mapM f = .error panic := by
  induction l with
  | nil => cases ha
  | cons b rest ih =>
    rw [List.mapM_cons]
    cases hb : f b with
    | error panic => exact ⟨panic, rfl⟩
    | ok =>
      have hrest : a ∈ rest := by
        refine (List.mem_cons.mp ha).resolve_left fun hab => ?_
        obtain ⟨panic, hpanic⟩ := h
        rw [hab, hb] at hpanic
        cases hpanic
      exact bind_panics (ih hrest) _

end

end IotController.Foundation
