/-
  Sorting by a `less` function and taking the top tier.

  `SliceSort` is a sort that promises what an unstable library sort promises: the result is
  a rearrangement of the slice and, when `less` is a strict weak order, no element is less
  than one before it.  How elements that compare equal are arranged is left open.
-/
import Mathlib.Data.List.Sort
import Mathlib.Tactic

namespace IotController.Foundation

/-- A strict weak order: asymmetric, and incomparability is transitive. -/
structure StrictWeak {α : Type} (less : α → α → Bool) : Prop where
  asymm : ∀ a b, less a b = true → less b a = false
  cotrans : ∀ a b c, less a c = true → less a b = true ∨ less b c = true

/-- What a sort by `less` promises. -/
structure SliceSort where
  sort : ∀ {α : Type}, (α → α → Bool) → List α → List α
  perm : ∀ {α : Type} (less : α → α → Bool) (l : List α), (sort less l).Perm l
  ordered : ∀ {α : Type} (less : α → α → Bool) (l : List α), StrictWeak less →
    (sort less l).Pairwise fun a b => less b a = false

namespace SliceSort

variable {α : Type}

def insertion : SliceSort where
  sort less l := l.insertionSort fun a b => less b a = false
  perm less l := List.perm_insertionSort (fun a b => less b a = false) l
  ordered := by
    intro α less l h
    have : Std.Total fun a b => less b a = false :=
      ⟨fun a b => by
        cases hba : less b a with
        | false => exact Or.inl rfl
        | true => exact Or.inr (h.asymm b a hba)⟩
    have : IsTrans α fun a b => less b a = false :=
      ⟨fun a b c hab hbc => by
        by_contra hca
        rcases h.cotrans c b a (by simpa using hca) with hcb | hba
        · simp [hbc] at hcb
        · simp [hab] at hba⟩
    exact List.pairwise_insertionSort _ l

end SliceSort

section TopTier

variable {α β : Type} [LinearOrder β] (score : α → β)

def topTier : List α → List α
  | [] => []
  | first :: rest => (first :: rest).takeWhile fun c => score c = score first

/-- `a` scores at least as high as every element of `l`. -/
def Tops (l : List α) (a : α) : Prop := ∀ b ∈ l, score b ≤ score a

instance (l : List α) (a : α) : Decidable (Tops score l a) :=
  inferInstanceAs (Decidable (∀ b ∈ l, score b ≤ score a))

variable {score}

theorem tops_congr {l l' : List α} (h : ∀ a, a ∈ l ↔ a ∈ l') (a : α) :
    Tops score l a ↔ Tops score l' a :=
  ⟨fun htop b hb => htop b ((h b).mpr hb), fun htop b hb => htop b ((h b).mp hb)⟩

theorem takeWhile_eq_filter_of_falling {l : List α} {t : β}
    (hsorted : l.Pairwise fun a b => score b ≤ score a) (hbound : ∀ a ∈ l, score a ≤ t) :
    l.takeWhile (fun c => score c = t) = l.filter fun c => score c = t := by
  induction l with
  | nil => rfl
  | cons head rest ih =>
    obtain ⟨hhead, hrest⟩ := List.pairwise_cons.mp hsorted
    have hbound' : ∀ a ∈ rest, score a ≤ t := fun a ha => hbound a (List.mem_cons_of_mem _ ha)
    by_cases ht : score head = t
    · rw [List.takeWhile_cons_of_pos (by simpa using ht),
        List.filter_cons_of_pos (by simpa using ht), ih hrest hbound']
    · -- from here on every score is below `t`
      have hlt : score head < t := lt_of_le_of_ne (hbound head List.mem_cons_self) ht
      have hnone : rest.filter (fun c => score c = t) = [] := by
        rw [List.filter_eq_nil_iff]
        intro a ha
        simpa using (lt_of_le_of_lt (hhead a ha) hlt).ne
      rw [List.takeWhile_cons_of_neg (by simpa using ht),
        List.filter_cons_of_neg (by simpa using ht), hnone]

/-- **The top tier of a sorted list** is its elements of maximal score. -/
theorem topTier_eq_filter {l : List α} (hsorted : l.Pairwise fun a b => score b ≤ score a) :
    topTier score l = l.filter fun a => Tops score l a := by
  cases l with
  | nil => rfl
  | cons first rest =>
    have hfirst : Tops score (first :: rest) first := by
      intro b hb
      rcases List.mem_cons.mp hb with rfl | hb
      · exact le_refl _
      · exact (List.pairwise_cons.mp hsorted).1 b hb
    rw [topTier, takeWhile_eq_filter_of_falling hsorted hfirst]
    refine List.filter_congr fun a ha => ?_
    have hiff : score a = score first ↔ Tops score (first :: rest) a :=
      ⟨fun h b hb => h ▸ hfirst b hb,
        fun h => le_antisymm (hfirst a ha) (h first List.mem_cons_self)⟩
    simpa using hiff

end TopTier

end IotController.Foundation
