/-
  Slices of pointers, changed in place.

  A slice of pointers is a length over a backing array whose cells are pointers or nil.  The
  operations write into that array: `compact` filters it with a read and a write position,
  `removeFirst` moves the cells behind an element one place down, and both clear the cells
  they free; `append` writes behind the last element, or moves to a larger array.
-/
import IotController.Foundation.Slice

namespace IotController.Foundation

variable {α : Type}

/-- A slice of pointers: the cells from its first element on, and its length. -/
structure PointerSlice (α : Type) where
  cells : List (Option α)
  length : Nat

namespace PointerSlice

/-! ## Operations -/

def empty : PointerSlice α := ⟨[], 0⟩

def load (cells : List (Option α)) (i : Nat) : Checked α :=
  match cells[i]? with
  | some (some a) => .ok a
  | some none => .error .nilPointer
  | none => .error (.index i cells.length)

def searchLoop (p : α → Bool) (cells : List (Option α)) : Nat → Nat → Checked (Option Nat)
  | 0, _ => .ok none
  | turns + 1, i => do
      let a ← load cells i
      if p a then .ok (some i) else searchLoop p cells turns (i + 1)

def search (p : α → Bool) (b : PointerSlice α) : Checked (Option Nat) :=
  searchLoop p b.cells b.length 0

def assign (b : PointerSlice α) (i : Nat) (a : α) : PointerSlice α :=
  { b with cells := b.cells.set i (some a) }

/-- `append`, where `grow` says how many spare cells a new array gets. -/
def append (grow : Nat → Nat) (b : PointerSlice α) (a : α) : PointerSlice α :=
  if b.length < b.cells.length then ⟨b.cells.set b.length (some a), b.length + 1⟩
  else
    ⟨b.cells.take b.length ++ some a :: List.replicate (grow b.length) none, b.length + 1⟩

def clearLoop : Nat → Nat → List (Option α) → List (Option α)
  | 0, _, cells => cells
  | turns + 1, i, cells => clearLoop turns (i + 1) (cells.set i none)

/-- The filter loop: it reads in cell `i` and writes in cell `w`. -/
def compactLoop (keep : α → Bool) :
    Nat → Nat → Nat → List (Option α) → Checked (Nat × List (Option α))
  | 0, _, w, cells => .ok (w, cells)
  | turns + 1, i, w, cells => do
      let a ← load cells i
      if keep a then compactLoop keep turns (i + 1) (w + 1) (cells.set w (some a))
      else compactLoop keep turns (i + 1) w cells

/-- Keep the elements that satisfy `keep`, in their order, and clear the cells
behind them. -/
def compact (keep : α → Bool) (b : PointerSlice α) : Checked (PointerSlice α) := do
  let (w, cells) ← compactLoop keep b.length 0 0 b.cells
  .ok ⟨clearLoop (b.length - w) w cells, w⟩

def shiftLoop : Nat → Nat → List (Option α) → List (Option α)
  | 0, _, cells => cells
  | turns + 1, i, cells => shiftLoop turns (i + 1) (cells.set i (cells[i + 1]?.join))

def removeAt (b : PointerSlice α) (i : Nat) : PointerSlice α :=
  let last := b.length - 1
  ⟨(shiftLoop (last - i) i b.cells).set last none, last⟩

def removeFirst (p : α → Bool) (b : PointerSlice α) : Checked (Bool × PointerSlice α) := do
  match ← b.search p with
  | some i => .ok (true, b.removeAt i)
  | none => .ok (false, b)

/-! ## What a slice holds -/

/-- `b` holds the elements `xs`, and every cell behind them is nil. -/
def Backs (b : PointerSlice α) (xs : List α) : Prop :=
  b.length = xs.length ∧ ∃ spare, b.cells = xs.map some ++ List.replicate spare none

def entries (b : PointerSlice α) : List α := (b.cells.take b.length).reduceOption

theorem backs_empty : (empty : PointerSlice α).Backs [] := ⟨rfl, 0, rfl⟩

variable {b : PointerSlice α} {xs : List α}

theorem Backs.entries_eq (h : b.Backs xs) : b.entries = xs := by
  obtain ⟨hlength, spare, hcells⟩ := h
  have htake : (xs.map some ++ List.replicate spare none).take xs.length = xs.map some :=
    List.take_left' (by simp)
  rw [entries, hcells, hlength, htake]
  show (xs.map some).filterMap id = xs
  rw [List.filterMap_map]
  exact List.filterMap_some

theorem load_element (before : List (Option α)) (a : α) (behind : List (Option α)) :
    load (before ++ some a :: behind) before.length = .ok a := by
  simp [load]

theorem set_element (before : List (Option α)) (old new : Option α) (behind : List (Option α)) :
    (before ++ old :: behind).set before.length new = before ++ new :: behind := by
  simp

/-- What a search from the front returns. -/
inductive Found (p : α → Bool) (xs : List α) : Option Nat → Prop
  | nowhere (h : ∀ a ∈ xs, p a = false) : Found p xs none
  | element (before : List α) (a : α) (behind : List α) (hxs : xs = before ++ a :: behind)
      (hbefore : ∀ b ∈ before, p b = false) (ha : p a = true) : Found p xs (some before.length)

/-- The invariant of the search: the elements passed do not satisfy `p`. -/
theorem searchLoop_found (p : α → Bool) (tail : List (Option α)) :
    ∀ (left passed : List α), (∀ a ∈ passed, p a = false) →
      ∃ found, searchLoop p ((passed ++ left).map some ++ tail) left.length passed.length =
          .ok found ∧ Found p (passed ++ left) found := by
  intro left
  induction left with
  | nil =>
    intro passed hpassed
    exact ⟨none, rfl, .nowhere (by simpa using hpassed)⟩
  | cons a rest ih =>
    intro passed hpassed
    have hload : load ((passed ++ a :: rest).map some ++ tail) passed.length = .ok a := by
      simpa using load_element (passed.map some) a (rest.map some ++ tail)
    simp only [List.length_cons, searchLoop, hload, ok_bind]
    by_cases ha : p a = true
    · exact ⟨some passed.length, if_pos ha, .element passed a rest rfl hpassed ha⟩
    · have hfalse : p a = false := by simpa using ha
      have hnext := ih (passed ++ [a]) (by
        intro b hb
        rcases List.mem_append.mp hb with hb | hb
        · exact hpassed b hb
        · rw [List.mem_singleton.mp hb]
          exact hfalse)
      simpa [ha] using hnext

theorem search_found (h : b.Backs xs) (p : α → Bool) :
    ∃ found, b.search p = .ok found ∧ Found p xs found := by
  obtain ⟨hlength, spare, hcells⟩ := h
  rw [search, hcells, hlength]
  exact searchLoop_found p (List.replicate spare none) xs [] (by simp)

theorem Backs.assign {before behind : List α} {old : α} (h : b.Backs (before ++ old :: behind))
    (new : α) : (b.assign before.length new).Backs (before ++ new :: behind) := by
  obtain ⟨hlength, spare, hcells⟩ := h
  refine ⟨by simpa [PointerSlice.assign] using hlength, spare, ?_⟩
  simp [PointerSlice.assign, hcells]

theorem Backs.append (h : b.Backs xs) (grow : Nat → Nat) (a : α) :
    (b.append grow a).Backs (xs ++ [a]) := by
  obtain ⟨hlength, spare, hcells⟩ := h
  unfold PointerSlice.append
  cases spare with
  | zero =>
    -- the array is full
    have hfull : ¬ b.length < b.cells.length := by simp [hcells, hlength]
    have htake : b.cells.take b.length = xs.map some := by
      rw [hcells, hlength]
      simp
    rw [if_neg hfull, htake]
    exact ⟨by simp [hlength], grow b.length, by simp⟩
  | succ spare =>
    have hroom : b.length < b.cells.length := by simp [hcells, hlength]
    rw [if_pos hroom]
    refine ⟨by simp [hlength], spare, ?_⟩
    have hcells' : b.cells = xs.map some ++ none :: List.replicate spare none := by
      rw [hcells, List.replicate_succ]
    have hset := set_element (xs.map some) none (some a) (List.replicate spare none)
    rw [List.length_map] at hset
    show b.cells.set b.length (some a) = _
    rw [hcells', hlength, hset]
    simp

theorem clearLoop_eq (tail : List (Option α)) :
    ∀ (cleared before : List (Option α)),
      clearLoop cleared.length before.length (before ++ cleared ++ tail) =
        before ++ List.replicate cleared.length none ++ tail := by
  intro cleared
  induction cleared with
  | nil => intro before; simp [clearLoop]
  | cons c rest ih =>
    intro before
    have hset : (before ++ c :: rest ++ tail).set before.length none =
        (before ++ [none]) ++ rest ++ tail := by simp
    have hlength : before.length + 1 = (before ++ [(none : Option α)]).length := by simp
    rw [List.length_cons, clearLoop, hset, hlength, ih]
    simp [List.replicate_succ]

/-- The loop's invariant: the cells hold what was kept, then free cells, then what is to be
read. -/
theorem compactLoop_spec (keep : α → Bool) (tail : List (Option α)) :
    ∀ (left kept : List α) (free : List (Option α)),
      ∃ free' : List (Option α),
        compactLoop keep left.length (kept.length + free.length) kept.length
            (kept.map some ++ free ++ left.map some ++ tail) =
          .ok ((kept ++ left.filter keep).length,
            (kept ++ left.filter keep).map some ++ free' ++ tail) ∧
        kept.length + free.length + left.length =
          (kept ++ left.filter keep).length + free'.length := by
  intro left
  induction left with
  | nil =>
    intro kept free
    exact ⟨free, by simp [compactLoop], by simp⟩
  | cons a rest ih =>
    intro kept free
    have hload : load (kept.map some ++ free ++ (a :: rest).map some ++ tail)
        (kept.length + free.length) = .ok a := by
      simpa using load_element (kept.map some ++ free) a (rest.map some ++ tail)
    simp only [List.length_cons, compactLoop, hload, ok_bind]
    by_cases ha : keep a = true
    · -- the element is written at the end of what was kept
      cases free with
      | nil =>
        obtain ⟨free', hloop, hcount⟩ := ih (kept ++ [a]) []
        refine ⟨free', ?_, ?_⟩
        · simpa [ha] using hloop
        · simp only [List.filter_cons_of_pos ha, List.length_append, List.length_cons,
            List.length_nil] at hcount ⊢
          omega
      | cons f free =>
        obtain ⟨free', hloop, hcount⟩ := ih (kept ++ [a]) (free ++ [some a])
        refine ⟨free', ?_, ?_⟩
        · have hset : ((kept.map some ++ f :: free ++ (a :: rest).map some ++ tail).set
              kept.length (some a)) =
                (kept ++ [a]).map some ++ (free ++ [some a]) ++ rest.map some ++ tail := by
            simp
          have hread : kept.length + (f :: free).length + 1 =
              (kept ++ [a]).length + (free ++ [some a]).length := by
            simp only [List.length_append, List.length_cons, List.length_nil]
            omega
          have hwrite : kept.length + 1 = (kept ++ [a]).length := by simp
          rw [if_pos ha, hset, hread, hwrite, hloop]
          simp [ha]
        · simp only [List.filter_cons_of_pos ha, List.length_append, List.length_cons,
            List.length_nil] at hcount ⊢
          omega
    · -- its cell becomes free
      obtain ⟨free', hloop, hcount⟩ := ih kept (free ++ [some a])
      refine ⟨free', ?_, ?_⟩
      · have hread : kept.length + free.length + 1 = kept.length + (free ++ [some a]).length := by
          simp only [List.length_append, List.length_cons, List.length_nil]
          omega
        have hcells : kept.map some ++ free ++ (a :: rest).map some ++ tail =
            kept.map some ++ (free ++ [some a]) ++ rest.map some ++ tail := by simp
        rw [if_neg ha, hread, hcells, hloop, List.filter_cons_of_neg ha]
      · simp only [List.filter_cons_of_neg ha, List.length_append, List.length_cons,
          List.length_nil] at hcount ⊢
        omega

theorem Backs.compact (h : b.Backs xs) (keep : α → Bool) :
    ∃ b', b.compact keep = .ok b' ∧ b'.Backs (xs.filter keep) := by
  obtain ⟨hlength, spare, hcells⟩ := h
  obtain ⟨free, hloop, hcount⟩ := compactLoop_spec keep (List.replicate spare none) xs [] []
  simp only [List.map_nil, List.nil_append, List.length_nil, Nat.zero_add] at hloop hcount
  have hcleared : xs.length - (xs.filter keep).length = free.length := by omega
  have hclear := clearLoop_eq (List.replicate spare none) free ((xs.filter keep).map some)
  rw [List.length_map] at hclear
  refine ⟨_, by rw [PointerSlice.compact, hcells, hlength, hloop]; rfl, rfl,
    free.length + spare, ?_⟩
  show clearLoop _ _ _ = _
  rw [hcleared, hclear, List.append_assoc, List.replicate_append_replicate]

theorem shiftLoop_eq (tail : List (Option α)) :
    ∀ (moved before : List (Option α)) (c : Option α),
      ∃ last, shiftLoop moved.length before.length (before ++ c :: moved ++ tail) =
        before ++ moved ++ last :: tail := by
  intro moved
  induction moved with
  | nil => intro before c; exact ⟨c, by simp [shiftLoop]⟩
  | cons m rest ih =>
    intro before c
    have hnext : (before ++ c :: m :: rest ++ tail)[before.length + 1]?.join = m := by
      rw [List.append_assoc, List.getElem?_append_right (by omega)]
      simp
    have hset : (before ++ c :: m :: rest ++ tail).set before.length m =
        (before ++ [m]) ++ m :: rest ++ tail := by simp
    have hlength : before.length + 1 = (before ++ [m]).length := by simp
    obtain ⟨last, hshift⟩ := ih (before ++ [m]) m
    refine ⟨last, ?_⟩
    rw [List.length_cons, shiftLoop, hnext, hset, hlength, hshift]
    simp

theorem Backs.removeAt {before behind : List α} {a : α} (h : b.Backs (before ++ a :: behind)) :
    (b.removeAt before.length).Backs (before ++ behind) := by
  obtain ⟨hlength, spare, hcells⟩ := h
  have hlast : b.length - 1 = before.length + behind.length := by
    rw [hlength]
    simp
  have hturns : before.length + behind.length - before.length = behind.length := by omega
  obtain ⟨last, hshift⟩ := shiftLoop_eq (List.replicate spare none) (behind.map some)
    (before.map some) (some a)
  simp only [List.length_map] at hshift
  have hcells' : b.cells =
      before.map some ++ some a :: behind.map some ++ List.replicate spare none := by
    rw [hcells]
    simp
  refine ⟨by simp [PointerSlice.removeAt, hlast], spare + 1, ?_⟩
  show (shiftLoop _ _ _).set _ _ = _
  have hset := set_element (before.map some ++ behind.map some) last none
    (List.replicate spare none)
  simp only [List.length_append, List.length_map] at hset
  rw [hlast, hturns, hcells', hshift, hset, List.map_append, List.replicate_succ]

theorem Backs.removeFirst (h : b.Backs xs) (p : α → Bool) :
    ∃ b', b.removeFirst p = .ok (xs.any p, b') ∧ b'.Backs (xs.eraseP p) := by
  obtain ⟨found, hsearch, hfound⟩ := search_found h p
  unfold PointerSlice.removeFirst
  rw [hsearch]
  cases hfound with
  | nowhere hnone =>
    have hany : xs.any p = false := by simpa [List.any_eq_false] using hnone
    refine ⟨b, by rw [hany]; rfl, ?_⟩
    rw [List.eraseP_of_forall_not (by simpa using hnone)]
    exact h
  | element before a behind hxs hbefore ha =>
    subst hxs
    have hany : (before ++ a :: behind).any p = true := by simp [ha]
    refine ⟨b.removeAt before.length, by rw [hany]; rfl, ?_⟩
    rw [List.eraseP_append_right _ (by simpa using hbefore), List.eraseP_cons_of_pos ha]
    exact h.removeAt

end PointerSlice

end IotController.Foundation
