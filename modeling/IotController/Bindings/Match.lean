/-
  Which Bindings an event selects
  (`pkg/iot/bindings/match.go`).

  `propertyMatches`, `selectorMatches` and `specificity` are the source's three pure
  functions; `winners` is the part of `FindConditions` between them and the dispatch loop:
  collect the Bindings that match, sort them by falling score and then by name, keep the
  ones tied at the top.

  The sort is a parameter, since `sort.Slice` does not say how it arranges equal elements.
-/
import IotController.Api.Binding
import IotController.Foundation.Sort
import Mathlib.Data.String.Basic

namespace IotController.Bindings

open Foundation Api

def deviceZoneLabel : String := "iot/zone"

/-! ## Weights -/

def weightIEEE : Nat := 16

def weightDevice : Nat := 8

def weightLabelKey : Nat := 4

def weightDeviceType : Nat := 2

def weightZone : Nat := 1

/-! ## Matching -/

/-- A trigger without a value matches every value of its property. -/
def propertyMatches (trigger : EventTrigger) (property value : String) : Bool :=
  if trigger.property = "" then false
  else if trigger.property ≠ property then false
  else if 0 < trigger.values.length then trigger.values.any fun v => v = value
  else if trigger.value ≠ "" ∧ trigger.value ≠ value then false
  else true

/-- `d.Labels[k]`, which is empty for a missing key. -/
def labelOf (d : Device) (k : String) : String := (d.labels.lookup k).getD ""

def selectorMatches (sel : EventSelector) (d : Device) : Bool :=
  if sel.ieee ≠ "" ∧ sel.ieee ≠ d.ieeeAddress then false
  else if sel.device ≠ "" ∧ sel.device ≠ d.name then false
  else if sel.deviceType ≠ "" ∧ sel.deviceType ≠ d.type then false
  else if sel.zone ≠ "" ∧ sel.zone ≠ labelOf d deviceZoneLabel then false
  else sel.labelSelector.entries.all fun e => labelOf d e.1 = e.2

def fieldWeight (field : String) (weight : Nat) : Nat := if field ≠ "" then weight else 0

def specificity (sel : EventSelector) : Nat :=
  fieldWeight sel.ieee weightIEEE + fieldWeight sel.device weightDevice +
    fieldWeight sel.deviceType weightDeviceType + fieldWeight sel.zone weightZone +
    sel.labelSelector.entries.length * weightLabelKey

def bindingMatches (b : Binding) (property value : String) (d : Device) : Bool :=
  propertyMatches b.event property value && selectorMatches b.event.selector d

/-! ## Winners -/

/-- A Binding that matched.  `trigger`, which no function reads, is not in the source: it names
what the Binding asked for. -/
structure Candidate where
  name : String
  condition : String
  score : Nat
  minDuration : Duration
  trigger : EventTrigger
  deriving DecidableEq

def candidateOf (b : Binding) : Candidate where
  name := b.name
  condition := b.condition
  score := specificity b.event.selector
  minDuration := b.event.minDuration
  trigger := b.event

def Candidate.binding (c : Candidate) : Binding := ⟨c.name, c.trigger, c.condition⟩

def candidates (bindings : List Binding) (property value : String) (d : Device) :
    List Candidate :=
  (bindings.filter fun b => bindingMatches b property value d).map candidateOf

def candidateLess (a b : Candidate) : Bool :=
  if a.score ≠ b.score then b.score < a.score else a.name < b.name

def winners (sort : SliceSort) (bindings : List Binding) (property value : String)
    (d : Device) : List Candidate :=
  topTier Candidate.score (sort.sort candidateLess (candidates bindings property value d))

theorem candidateLess_strictWeak : StrictWeak candidateLess where
  asymm a b h := by
    unfold candidateLess at h ⊢
    by_cases hscore : a.score = b.score
    · rw [if_neg (not_not_intro hscore)] at h
      rw [if_neg (not_not_intro hscore.symm)]
      simp only [decide_eq_true_eq, decide_eq_false_iff_not] at h ⊢
      exact lt_asymm h
    · rw [if_pos hscore] at h
      rw [if_pos (Ne.symm hscore)]
      simp only [decide_eq_true_eq, decide_eq_false_iff_not] at h ⊢
      exact lt_asymm h
  cotrans a b c h := by
    unfold candidateLess at h ⊢
    split_ifs at h ⊢ <;> simp only [decide_eq_true_eq] at h ⊢
    all_goals first
      | omega
      | skip
    · by_cases hlt : a.name < b.name
      · exact Or.inl hlt
      · exact Or.inr (lt_of_le_of_lt (not_lt.mp hlt) h)

section Winners

variable (sort : SliceSort) {bindings : List Binding} {property value : String} {d : Device}

/-- A Binding of the List that matches and whose score no matching one exceeds. -/
structure Wins (bindings : List Binding) (property value : String) (d : Device)
    (b : Binding) : Prop where
  mem : b ∈ bindings
  matched : bindingMatches b property value d = true
  top : ∀ b' ∈ bindings, bindingMatches b' property value d = true →
    specificity b'.event.selector ≤ specificity b.event.selector

instance (b : Binding) : Decidable (Wins bindings property value d b) :=
  decidable_of_iff
    (b ∈ bindings ∧ bindingMatches b property value d = true ∧
      ∀ b' ∈ bindings, bindingMatches b' property value d = true →
        specificity b'.event.selector ≤ specificity b.event.selector)
    ⟨fun h => ⟨h.1, h.2.1, h.2.2⟩, fun h => ⟨h.mem, h.matched, h.top⟩⟩

theorem sorted_candidates_falling (l : List Candidate) :
    (sort.sort candidateLess l).Pairwise fun a b => b.score ≤ a.score := by
  refine (sort.ordered candidateLess l candidateLess_strictWeak).imp fun {a b} h => ?_
  unfold candidateLess at h
  split_ifs at h with hne
  · simpa using h
  · exact le_of_eq (not_ne_iff.mp hne)

theorem tops_candidateOf_iff {b : Binding} (hmem : b ∈ bindings)
    (hmatch : bindingMatches b property value d = true) :
    Tops Candidate.score (candidates bindings property value d) (candidateOf b) ↔
      Wins bindings property value d b := by
  constructor
  · intro htop
    refine ⟨hmem, hmatch, fun b' hb' hmatch' => ?_⟩
    exact htop (candidateOf b') (List.mem_map_of_mem (List.mem_filter.mpr ⟨hb', hmatch'⟩))
  · intro hwins c hc
    obtain ⟨b', hb', rfl⟩ := List.mem_map.mp hc
    obtain ⟨hb', hmatch'⟩ := List.mem_filter.mp hb'
    exact hwins.top b' hb' hmatch'

theorem winners_perm :
    (winners sort bindings property value d).Perm
      ((bindings.filter fun b => Wins bindings property value d b).map candidateOf) := by
  unfold winners
  rw [topTier_eq_filter (sorted_candidates_falling sort _)]
  have hperm := sort.perm candidateLess (candidates bindings property value d)
  refine (hperm.filter _).trans (List.Perm.of_eq ?_)
  unfold candidates
  rw [List.filter_map, List.filter_filter]
  refine congrArg _ (List.filter_congr fun b hb => ?_)
  -- only the matching Bindings are compared with the top
  cases hmatch : bindingMatches b property value d with
  | false =>
    have hnot : ¬ Wins bindings property value d b := fun h => by simp [h.matched] at hmatch
    simp [hnot]
  | true =>
    have hiff := (tops_congr (fun c => hperm.mem_iff) (candidateOf b)).trans
      (tops_candidateOf_iff hb hmatch)
    simpa [candidates] using hiff

theorem mem_winners_iff {c : Candidate} :
    c ∈ winners sort bindings property value d ↔
      ∃ b, Wins bindings property value d b ∧ candidateOf b = c := by
  rw [(winners_perm sort).mem_iff, List.mem_map]
  constructor
  · rintro ⟨b, hb, rfl⟩
    exact ⟨b, by simpa using (List.mem_filter.mp hb).2, rfl⟩
  · rintro ⟨b, hwins, rfl⟩
    exact ⟨b, List.mem_filter.mpr ⟨hwins.mem, by simpa using hwins⟩, rfl⟩

theorem winners_pairwise_name (hnames : (bindings.map Binding.name).Nodup) :
    (winners sort bindings property value d).Pairwise fun a b => a.name < b.name := by
  have hnodup : ((winners sort bindings property value d).map Candidate.name).Nodup := by
    rw [((winners_perm sort).map Candidate.name).nodup_iff, List.map_map]
    exact hnames.sublist (List.filter_sublist.map _)
  have hsorted : (winners sort bindings property value d).Pairwise
      fun a b => candidateLess b a = false := by
    unfold winners
    rw [topTier_eq_filter (sorted_candidates_falling sort _)]
    exact (sort.ordered candidateLess _ candidateLess_strictWeak).sublist List.filter_sublist
  have hdistinct : (winners sort bindings property value d).Pairwise
      fun a b => a.name ≠ b.name := List.pairwise_map.mp hnodup
  refine List.Pairwise.imp_of_mem ?_ (hsorted.and hdistinct)
  rintro a b ha hb ⟨hless, hne⟩
  -- both have the top score, so the comparison was by name
  obtain ⟨x, hx, rfl⟩ := (mem_winners_iff sort).mp ha
  obtain ⟨y, hy, rfl⟩ := (mem_winners_iff sort).mp hb
  have hscore : (candidateOf y).score = (candidateOf x).score :=
    le_antisymm (hx.top y hy.mem hy.matched) (hy.top x hx.mem hx.matched)
  unfold candidateLess at hless
  rw [if_neg (not_not_intro hscore)] at hless
  exact lt_of_le_of_ne (not_lt.mp (by simpa using hless)) hne

/-- **The winners, without the sort**: the winning Bindings in the order of their
names. -/
theorem winners_spec (hnames : (bindings.map Binding.name).Nodup) :
    ∃ winning : List Binding,
      winning.Perm (bindings.filter fun b => Wins bindings property value d b) ∧
        winning.Pairwise (fun a b => a.name < b.name) ∧
        winners sort bindings property value d = winning.map candidateOf := by
  refine ⟨(winners sort bindings property value d).map Candidate.binding, ?_, ?_, ?_⟩
  · refine ((winners_perm sort).map Candidate.binding).trans (List.Perm.of_eq ?_)
    rw [List.map_map]
    exact List.map_id _
  · exact List.pairwise_map.mpr (winners_pairwise_name sort hnames)
  · rw [List.map_map]
    refine ((List.map_congr_left fun c hc => ?_).trans (List.map_id _)).symm
    obtain ⟨b, -, rfl⟩ := (mem_winners_iff sort).mp hc
    rfl

end Winners

end IotController.Bindings
