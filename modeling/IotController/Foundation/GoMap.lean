/-
  Finite maps with an unspecified iteration order.

  A Go map is modelled by an association list without duplicate keys, so
  `lookup`, `insert` and `erase` and their laws come from the library.  What a
  Go map adds is `range`: each `for k, v := range m` visits the entries once
  each, in an order that the language leaves open and that may differ from one
  statement to the next.  `MapOrder` is that choice.
-/
import Mathlib.Data.List.AList
import Mathlib.Tactic

namespace IotController.Foundation

/-- A finite map from `K` to `V`. -/
abbrev GoMap (K V : Type) : Type := AList fun _ : K => V

/-- The order in which a `range` statement visits a map; the first argument numbers the
statements, so that two may disagree. -/
structure MapOrder where
  order : ∀ {α : Type}, Nat → List α → List α
  perm : ∀ {α : Type} (n : Nat) (entries : List α), (order n entries).Perm entries

namespace MapOrder

theorem mem_order_iff {α : Type} (r : MapOrder) (n : Nat) {entries : List α} {x : α} :
    x ∈ r.order n entries ↔ x ∈ entries :=
  (r.perm n entries).mem_iff

def stored : MapOrder where
  order _ entries := entries
  perm _ _ := List.Perm.refl _

end MapOrder

namespace GoMap

variable {K V : Type} [DecidableEq K]

def mapValues (f : V → V) (m : GoMap K V) : GoMap K V where
  entries := m.entries.map fun e => ⟨e.1, f e.2⟩
  nodupKeys := by
    have hkeys : (m.entries.map fun e => (⟨e.1, f e.2⟩ : Σ _ : K, V)).keys = m.entries.keys := by
      simp [List.keys, Function.comp_def]
    show (List.keys _).Nodup
    rw [hkeys]
    exact m.keys_nodup

@[simp] theorem lookup_mapValues (f : V → V) (m : GoMap K V) (k : K) :
    (mapValues f m).lookup k = (m.lookup k).map f := by
  show (m.entries.map fun e => (⟨e.1, f e.2⟩ : Σ _ : K, V)).dlookup k = (m.entries.dlookup k).map f
  exact List.dlookup_map₂ (γ := fun _ : K => V) (δ := fun _ : K => V) (f := fun _ => f) k

theorem lookup_insert_eq (m : GoMap K V) (k k' : K) (v : V) :
    (m.insert k v).lookup k' = if k' = k then some v else m.lookup k' := by
  split
  · rename_i h
    subst h
    exact AList.lookup_insert m
  · rename_i h
    exact AList.lookup_insert_ne h

theorem lookup_erase_eq (m : GoMap K V) (k k' : K) :
    (m.erase k).lookup k' = if k' = k then none else m.lookup k' := by
  split
  · rename_i h
    subst h
    exact AList.lookup_erase k' m
  · rename_i h
    exact AList.lookup_erase_ne h

theorem lookup_eq_some_iff_mem (m : GoMap K V) (k : K) (v : V) :
    m.lookup k = some v ↔ (⟨k, v⟩ : Σ _ : K, V) ∈ m.entries :=
  AList.mem_lookup_iff

def ofList (entries : List (K × V)) : GoMap K V :=
  entries.foldl (fun m e => m.insert e.1 e.2) ∅

theorem lookup_ofList {entries : List (K × V)} (hkeys : (entries.map Prod.fst).Nodup) (k : K)
    (v : V) : (ofList entries).lookup k = some v ↔ (k, v) ∈ entries := by
  have hloop : ∀ (entries : List (K × V)) (m : GoMap K V), (entries.map Prod.fst).Nodup →
      ((entries.foldl (fun m e => m.insert e.1 e.2) m).lookup k = some v ↔
        (k, v) ∈ entries ∨ k ∉ entries.map Prod.fst ∧ m.lookup k = some v) := by
    intro entries
    induction entries with
    | nil => simp
    | cons e rest ih =>
      intro m hnodup
      rw [List.map_cons, List.nodup_cons] at hnodup
      rw [List.foldl_cons, ih _ hnodup.2, lookup_insert_eq]
      have hrest : (k, v) ∈ rest → k ∈ rest.map Prod.fst := List.mem_map_of_mem
      by_cases hk : k = e.1
      · subst hk
        have hnot : (e.1, v) ∉ rest := fun h => hnodup.1 (hrest h)
        rw [if_pos rfl]
        simp only [hnot, hnodup.1, List.mem_cons, Prod.ext_iff, List.map_cons]
        simp [eq_comm]
      · rw [if_neg hk]
        simp only [List.mem_cons, List.map_cons, not_or, Prod.ext_iff, hk]
        simp
  simpa [ofList] using hloop entries ∅ hkeys

section Log

variable {ε : Type} (write : ε → Option (K × V))

def record (m : GoMap K V) (e : ε) : GoMap K V :=
  match write e with
  | none => m
  | some (k, v) => m.insert k v

def assigned (k : K) (e : ε) : Option V :=
  match write e with
  | none => none
  | some (k', v) => if k = k' then some v else none

theorem lookup_record (m : GoMap K V) (e : ε) (k : K) :
    (record write m e).lookup k = (assigned write k e).or (m.lookup k) := by
  unfold record assigned
  cases write e with
  | none => simp
  | some w =>
    obtain ⟨k', v⟩ := w
    by_cases hk : k = k' <;> simp [lookup_insert_eq, hk]

theorem lookup_log_eq_some_iff (events : List ε) (k : K) (v : V) :
    (events.foldl (record write) ∅).lookup k = some v ↔
      ∃ before e after, events = before ++ e :: after ∧ assigned write k e = some v ∧
        ∀ d ∈ after, assigned write k d = none := by
  have hlog : ∀ (events : List ε) (m : GoMap K V),
      (events.foldl (record write) m).lookup k =
        (events.reverse.findSome? (assigned write k)).or (m.lookup k) := by
    intro events
    induction events with
    | nil => intro m; simp
    | cons e _ ih =>
      intro m
      have hone : [e].findSome? (assigned write k) = assigned write k e := by simp
      rw [List.foldl_cons, ih, lookup_record, List.reverse_cons, List.findSome?_append, hone,
        Option.or_assoc]
  rw [hlog]
  simp only [AList.lookup_empty, Option.or_none, List.findSome?_eq_some_iff]
  constructor
  · rintro ⟨newer, e, older, hevents, hassigned, hnone⟩
    refine ⟨older.reverse, e, newer.reverse, ?_, hassigned, fun d hd => ?_⟩
    · have h := congrArg List.reverse hevents
      simpa using h
    · exact hnone d (List.mem_reverse.mp hd)
  · rintro ⟨before, e, after, rfl, hassigned, hnone⟩
    refine ⟨after.reverse, e, before.reverse, by simp, hassigned, fun d hd => ?_⟩
    exact hnone d (List.mem_reverse.mp hd)

end Log

end GoMap

end IotController.Foundation
