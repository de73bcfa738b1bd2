/-
  Selecting from a list, by rank and by key.

  `List.argmax f l` scans a list once and keeps the first element with the largest `f`.  The
  rules below say when the selected element survives a filter and which elements take no
  part in the selection.
-/
import Mathlib.Data.List.MinMax
import Mathlib.Tactic

namespace IotController.Foundation

variable {α β : Type} [LinearOrder β]

theorem argmax_filter_of_pos {f : α → β} {p : α → Bool} {l : List α} {m : α}
    (hmax : l.argmax f = some m) (hm : p m = true) : (l.filter p).argmax f = some m := by
  induction l generalizing m with
  | nil => simp at hmax
  | cons head rest ih =>
    rw [List.argmax_cons] at hmax
    cases hrest : rest.argmax f with
    | none =>
      have hnil : rest = [] := List.argmax_eq_none.mp hrest
      subst hnil
      have hhead : head = m := by simpa using hmax
      simp [hhead, hm]
    | some c =>
      simp only [hrest] at hmax
      by_cases hlt : f head < f c
      · -- the head loses against the selection of the rest
        have hc : c = m := by simpa [hlt] using hmax
        subst hc
        have hkept := ih hrest hm
        by_cases hp : p head = true
        · simp [List.argmax_cons, hp, hkept, hlt]
        · simp [hp, hkept]
      · -- the head wins, and nothing in the filtered rest is above it
        have hhead : head = m := by simpa [hlt] using hmax
        subst hhead
        rw [List.filter_cons_of_pos hm, List.argmax_cons]
        cases hkept : (rest.filter p).argmax f with
        | none => rfl
        | some d =>
          have hd : d ∈ rest := List.mem_of_mem_filter (List.argmax_mem hkept)
          have hle : f d ≤ f head := le_trans (List.le_of_mem_argmax hd hrest) (not_lt.mp hlt)
          simp [not_lt.mpr hle]

/-- **Dominated elements do not count.**  If an element of `p` lies above all outside `p`, the
selection can be made in `p`. -/
theorem argmax_filter_of_dominated (f : α → β) (p : α → Bool) (l : List α)
    (hdom : ∃ d ∈ l, p d = true ∧ ∀ a ∈ l, p a = false → f a < f d) :
    (l.filter p).argmax f = l.argmax f := by
  obtain ⟨d, hd, -, habove⟩ := hdom
  cases hmax : l.argmax f with
  | none =>
    have hnil : l = [] := List.argmax_eq_none.mp hmax
    subst hnil
    simp at hd
  | some m =>
    refine argmax_filter_of_pos hmax ?_
    by_contra hnot
    have hlt := habove m (List.argmax_mem hmax) (by simpa using hnot)
    exact absurd hlt (not_lt.mpr (List.le_of_mem_argmax hd hmax))

theorem argmax_eq_of_outranks {f : α → β} {l : List α} {m : α} (hmem : m ∈ l)
    (h : ∀ a ∈ l, a = m ∨ f a < f m) : l.argmax f = some m := by
  cases hmax : l.argmax f with
  | none =>
    rw [List.argmax_eq_none.mp hmax] at hmem
    simp at hmem
  | some c =>
    rcases h c (List.argmax_mem hmax) with rfl | hlt
    · rfl
    · exact absurd (List.le_of_mem_argmax hmem hmax) (not_le.mpr hlt)

theorem find?_key_eq_some_iff {κ : Type} [DecidableEq κ] {key : α → κ} {l : List α}
    (hdistinct : (l.map key).Nodup) {k : κ} {a : α} :
    l.find? (fun x => key x = k) = some a ↔ a ∈ l ∧ key a = k := by
  constructor
  · intro hfind
    exact ⟨List.mem_of_find?_eq_some hfind, by simpa using List.find?_some hfind⟩
  · rintro ⟨hmem, rfl⟩
    cases hfind : l.find? fun x => key x = key a with
    | none => simpa using List.find?_eq_none.mp hfind a hmem
    | some x =>
      have hx : key x = key a := by simpa using List.find?_some hfind
      rw [List.inj_on_of_nodup_map hdistinct (List.mem_of_find?_eq_some hfind) hmem hx]

theorem mem_eraseP_key_iff {κ : Type} [DecidableEq κ] {key : α → κ} {l : List α}
    (hdistinct : (l.map key).Nodup) {k : κ} {a : α} :
    a ∈ l.eraseP (fun x => key x = k) ↔ a ∈ l ∧ key a ≠ k := by
  induction l with
  | nil => simp
  | cons head rest ih =>
    obtain ⟨hnew, hrest⟩ := List.nodup_cons.mp hdistinct
    by_cases hk : key head = k
    · have hother : ∀ x ∈ rest, key x ≠ k := by
        intro x hx hx'
        exact hnew (List.mem_map.mpr ⟨x, hx, by rw [hx', hk]⟩)
      rw [List.eraseP_cons_of_pos (by simpa using hk), List.mem_cons]
      constructor
      · exact fun hmem => ⟨Or.inr hmem, hother a hmem⟩
      · rintro ⟨rfl | hmem, hne⟩
        · exact absurd hk hne
        · exact hmem
    · rw [List.eraseP_cons_of_neg (by simpa using hk), List.mem_cons, List.mem_cons, ih hrest]
      constructor
      · rintro (rfl | ⟨hmem, hne⟩)
        · exact ⟨Or.inl rfl, hk⟩
        · exact ⟨Or.inr hmem, hne⟩
      · rintro ⟨rfl | hmem, hne⟩
        · exact Or.inl rfl
        · exact Or.inr ⟨hmem, hne⟩

end IotController.Foundation
