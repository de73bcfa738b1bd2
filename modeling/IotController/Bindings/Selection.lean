/-
  What `FindConditions` returns.

  Without a MinDuration the result is a function of the set of Bindings: the Conditions of
  the winning Bindings in the order of their names.
-/
import IotController.Bindings.Debounce

namespace IotController.Bindings

open Foundation Api

def hallButton : Device where
  name := "hall-button"
  labels := (((∅ : GoMap String String).insert "iot/zone" "hall").insert "floor" "1").insert
    "wing" "east"
  ieeeAddress := "0x01"

def byAddress : Binding where
  name := "by-address"
  event := { property := "action", value := "single", selector := { ieee := "0x01" } }
  condition := "hall-override"

def byZone : Binding where
  name := "by-zone"
  event := { property := "action", value := "single", selector := { zone := "hall" } }
  condition := "hall-zone"

def byLabels : Binding where
  name := "by-labels"
  event :=
    { property := "action"
      value := "single"
      selector := { device := "hall-button", labelSelector := hallButton.labels } }
  condition := "hall-default"

/-! ## The results -/

theorem debounceDispatch_result (m : Matcher) (now : Time) (w : Candidate)
    (key : DebounceKey) :
    (debounceDispatch m now w key).2 = "" ∨ (debounceDispatch m now w key).2 = w.condition := by
  unfold debounceDispatch
  split
  · exact Or.inl rfl
  · split_ifs
    · exact Or.inr rfl
    · exact Or.inl rfl

theorem mem_of_mem_dispatchLoop {st : Settings} {clock : Nat → Time} {key : DebounceKey}
    {n : Nat} {m : Matcher} {ws : List Candidate} {w : Candidate}
    (h : w ∈ (dispatchLoop st clock key n m ws).2) :
    w ∈ ws ∧ (w.minDuration ≤ 0 ∨ w.condition ≠ "") := by
  induction ws generalizing n m with
  | nil => cases h
  | cons w' rest ih =>
    have hlater : ∀ {n m}, w ∈ (dispatchLoop st clock key n m rest).2 →
        w ∈ w' :: rest ∧ (w.minDuration ≤ 0 ∨ w.condition ≠ "") :=
      fun h => ⟨List.mem_cons_of_mem _ (ih h).1, (ih h).2⟩
    unfold dispatchLoop at h
    dsimp only at h
    split_ifs at h with himmediate hempty
    · rcases List.mem_cons.mp h with rfl | h
      · exact ⟨List.mem_cons_self, Or.inl himmediate⟩
      · exact hlater h
    · exact hlater h
    · rcases List.mem_cons.mp h with rfl | h
      · refine ⟨List.mem_cons_self, Or.inr ?_⟩
        rw [← (debounceDispatch_result m (clock n) w key).resolve_left hempty]
        exact hempty
      · exact hlater h

theorem dispatchLoop_of_immediate (st : Settings) (clock : Nat → Time) (key : DebounceKey)
    (n : Nat) (m : Matcher) {ws : List Candidate} (h : ∀ w ∈ ws, w.minDuration ≤ 0) :
    dispatchLoop st clock key n m ws = (m, ws) := by
  induction ws with
  | nil => rfl
  | cons w _ ih =>
    unfold dispatchLoop
    rw [if_pos (h w List.mem_cons_self), ih fun w' hw' => h w' (List.mem_cons_of_mem _ hw')]

section Characterisation

variable {property value : String} {d : Device}

theorem wins_congr {bindings bindings' : List Binding} (h : bindings'.Perm bindings)
    (b : Binding) :
    Wins bindings' property value d b ↔ Wins bindings property value d b :=
  ⟨fun hw => ⟨h.mem_iff.mp hw.mem, hw.matched, fun b' hb' => hw.top b' (h.mem_iff.mpr hb')⟩,
    fun hw => ⟨h.mem_iff.mpr hw.mem, hw.matched, fun b' hb' => hw.top b' (h.mem_iff.mp hb')⟩⟩

theorem eq_of_perm_of_names {l l' : List Binding} (hperm : l.Perm l')
    (hl : l.Pairwise fun a b => a.name < b.name)
    (hl' : l'.Pairwise fun a b => a.name < b.name) : l = l' :=
  hperm.eq_of_pairwise (fun _ _ _ _ hab hba => absurd hba (lt_asymm hab)) hl hl'

theorem findConditions_of_immediate (st : Settings) (clock : Nat → Time) (m : Matcher)
    {bindings : List Binding} (himmediate : ∀ b ∈ bindings, b.event.minDuration ≤ 0) :
    (findConditions st clock m ⟨property, value, some d⟩ (some bindings)).2 =
      (winners st.sort bindings property value d).map Candidate.condition := by
  have hws : ∀ w ∈ winners st.sort bindings property value d, w.minDuration ≤ 0 := by
    intro w hw
    obtain ⟨b, hb, rfl⟩ := (mem_winners_iff st.sort).mp hw
    exact himmediate b hb.mem
  unfold findConditions findWinners
  dsimp only
  rw [dispatchLoop_of_immediate st clock _ 1 _ hws]

/-- **What `FindConditions` returns.**  For distinctly named Bindings without a MinDuration it
is the Conditions of the matching Bindings of maximal specificity, in the order of their names.
The order of the List, the sort, the debounce state and the clock do not matter. -/
theorem findConditions_characterised (st : Settings) (clock : Nat → Time) (m : Matcher)
    (property value : String) (d : Device) (bindings : List Binding)
    (hnames : (bindings.map Binding.name).Nodup)
    (himmediate : ∀ b ∈ bindings, b.event.minDuration ≤ 0) :
    (∃ winning : List Binding,
      winning.Perm (bindings.filter fun b => Wins bindings property value d b) ∧
        winning.Pairwise (fun a b => a.name < b.name) ∧
        (findConditions st clock m ⟨property, value, some d⟩ (some bindings)).2 =
          winning.map Binding.condition) ∧
      ∀ (st' : Settings) (clock' : Nat → Time) (m' : Matcher) (bindings' : List Binding),
        bindings'.Perm bindings →
        (findConditions st' clock' m' ⟨property, value, some d⟩ (some bindings')).2 =
          (findConditions st clock m ⟨property, value, some d⟩ (some bindings)).2 := by
  obtain ⟨winning, hperm, hsorted, hwinners⟩ :=
    @winners_spec st.sort bindings property value d hnames
  have hresult : (findConditions st clock m ⟨property, value, some d⟩ (some bindings)).2 =
      winning.map Binding.condition := by
    rw [findConditions_of_immediate st clock m himmediate, hwinners, List.map_map]
    rfl
  refine ⟨⟨winning, hperm, hsorted, hresult⟩, fun st' clock' m' bindings' hlist => ?_⟩
  have hnames' : (bindings'.map Binding.name).Nodup := (hlist.map Binding.name).nodup_iff.mpr hnames
  obtain ⟨winning', hperm', hsorted', hwinners'⟩ :=
    @winners_spec st'.sort bindings' property value d hnames'
  -- the two winning lists have the same members and both are in name order
  have hfilter : (bindings'.filter fun b => Wins bindings' property value d b).Perm
      (bindings.filter fun b => Wins bindings property value d b) := by
    refine (List.Perm.of_eq (List.filter_congr fun b _ => ?_)).trans (hlist.filter _)
    simpa using wins_congr hlist b
  have heq : winning' = winning :=
    eq_of_perm_of_names (hperm'.trans (hfilter.trans hperm.symm)) hsorted' hsorted
  rw [findConditions_of_immediate st' clock' m'
    fun b hb => himmediate b (hlist.mem_iff.mp hb), hwinners', heq, hresult, List.map_map]
  rfl

/-- The order of the two Bindings in the List does not matter. -/
theorem findConditions_characterised_button :
    ([byZone, byAddress].map Binding.name).Nodup ∧
      (findConditions inlineSettings (fun _ => 0) {} ⟨"action", "single", some hallButton⟩
        (some [byAddress, byZone])).2 =
        (findConditions inlineSettings (fun _ => 0) {}
          ⟨"action", "single", some hallButton⟩ (some [byZone, byAddress])).2 :=
  ⟨by decide, (findConditions_characterised inlineSettings (fun _ => 0) {} "action" "single"
    hallButton [byZone, byAddress] (by decide) (by decide)).2 _ _ _ _
      (List.Perm.swap byZone byAddress [])⟩

end Characterisation

/-! ## One Binding against another -/

def fieldsSet (sel : EventSelector) : List Bool :=
  [decide (sel.ieee ≠ ""), decide (sel.device ≠ ""), decide (0 < sel.labelSelector.entries.length),
    decide (sel.deviceType ≠ ""), decide (sel.zone ≠ "")]

def setFirst : List Bool → List Bool → Prop
  | true :: _, false :: _ => True
  | a :: as, b :: bs => a = b ∧ setFirst as bs
  | _, _ => False

/-- The highest-ranked field that is set in exactly one selector is set in
`sel`. -/
def Outranks (sel sel' : EventSelector) : Prop := setFirst (fieldsSet sel) (fieldsSet sel')

/-- Wherever the List holds both, whatever the Matcher has seen, no result is due to `b'`. -/
def NeverReturned (b b' : Binding) (property value : String) (d : Device) : Prop :=
  ∀ (st : Settings) (clock : Nat → Time) (m : Matcher) (bindings : List Binding),
    (bindings.map Binding.name).Nodup → b ∈ bindings → b' ∈ bindings →
      candidateOf b' ∉ (findWinners st clock m ⟨property, value, some d⟩ (some bindings)).2

theorem fieldWeight_eq (field : String) (weight : Nat) :
    fieldWeight field weight = (decide (field ≠ "")).toNat * weight := by
  unfold fieldWeight
  by_cases h : field = "" <;> simp [h]

theorem setFirst_cons_iff (a b : Bool) (as bs : List Bool) :
    setFirst (a :: as) (b :: bs) ↔ (a = true ∧ b = false) ∨ (a = b ∧ setFirst as bs) := by
  cases a <;> cases b <;> simp [setFirst]

theorem specificity_lt_of_outranks {sel sel' : EventSelector} (h : Outranks sel sel')
    (hlabels : sel'.labelSelector.entries.length ≤ sel.labelSelector.entries.length) :
    specificity sel' < specificity sel := by
  have hle := fun field : String => Bool.toNat_le (decide (field ≠ ""))
  have hdevice := hle sel'.device
  have htype := hle sel'.deviceType
  have hzone := hle sel'.zone
  unfold Outranks fieldsSet at h
  simp only [specificity, fieldWeight_eq, weightIEEE, weightDevice, weightDeviceType, weightZone,
    weightLabelKey]
  simp only [setFirst_cons_iff] at h
  -- one case for each field that can be the first difference
  obtain ⟨hset, hunset⟩ | ⟨hieee, ⟨hset, hunset⟩ | ⟨hdev, ⟨hset, hunset⟩ | ⟨-, ⟨hset, hunset⟩ |
    ⟨hdevtype, ⟨hset, hunset⟩ | ⟨-, hfalse⟩⟩⟩⟩⟩ := h
  · rw [hset, hunset, Bool.toNat_true, Bool.toNat_false]
    omega
  · rw [hieee, hset, hunset, Bool.toNat_true, Bool.toNat_false]
    omega
  · have hsome := of_decide_eq_true hset
    have hnone := of_decide_eq_false hunset
    rw [hieee, hdev]
    omega
  · rw [hieee, hdev, hset, hunset, Bool.toNat_true, Bool.toNat_false]
    omega
  · rw [hieee, hdev, hdevtype, hset, hunset, Bool.toNat_true, Bool.toNat_false]
    omega
  · exact absurd hfalse (by simp [setFirst])

theorem mem_dispatchLoop_of_due {st : Settings} {clock : Nat → Time} {key : DebounceKey}
    {w : Candidate} {ws : List Candidate} (hnames : (ws.map Candidate.name).Nodup)
    (hw : w ∈ ws) (hcondition : w.minDuration ≤ 0 ∨ w.condition ≠ "") {n : Nat} {m : Matcher}
    {e : DebounceEntry} (hentry : m.debounce.lookup key = some e)
    (hfired : e.isFired w.name = false)
    (hdue : ∀ n, w.minDuration ≤ Time.sub (clock n) e.firstSeen) :
    w ∈ (dispatchLoop st clock key n m ws).2 := by
  induction ws generalizing n m e with
  | nil => cases hw
  | cons w' _ ih =>
    obtain ⟨hnew, hrest⟩ := List.nodup_cons.mp hnames
    unfold dispatchLoop
    dsimp only
    rcases List.mem_cons.mp hw with rfl | hmem
    · split_ifs with himmediate hempty
      · exact List.mem_cons_self
      · have helapsed : dwellElapsed e (clock n) w = true := by
          simp [dwellElapsed, hfired, hdue n]
        simp only [debounceDispatch, hentry, helapsed, if_true] at hempty
        exact absurd hempty (hcondition.resolve_left himmediate)
      · exact List.mem_cons_self
    · -- another winner goes first and leaves the entry of `w` as it was
      have hne : w.name ≠ w'.name := fun h => hnew (h ▸ List.mem_map_of_mem hmem)
      obtain ⟨e', he', hfired', hseen'⟩ :
          ∃ e', (debounceDispatch m (clock n) w' key).1.debounce.lookup key = some e' ∧
            e'.isFired w.name = false ∧ e'.firstSeen = e.firstSeen := by
        rw [lookup_debounceDispatch, if_pos rfl, hentry, Option.map_some]
        refine ⟨_, rfl, ?_, ?_⟩
        · split_ifs
          · rw [isFired_markFired, decide_eq_false hne, Bool.false_or, hfired]
          · exact hfired
        · split_ifs <;> rfl
      split_ifs
      · exact List.mem_cons_of_mem _ (ih hrest hmem hentry hfired hdue)
      · obtain ⟨e'', he'', hfired'', hseen''⟩ :
            ∃ e'', (scheduleDeferred st (debounceDispatch m (clock n) w' key).1
                (clock (n + 1)) w' key).debounce.lookup key = some e'' ∧
              e''.isFired w.name = e'.isFired w.name ∧ e''.firstSeen = e'.firstSeen := by
          rw [lookup_scheduleDeferred, if_pos rfl, he', Option.map_some]
          exact ⟨_, rfl, by split_ifs <;> rfl, by split_ifs <;> rfl⟩
        refine ih hrest hmem he'' (hfired''.trans hfired') fun n => ?_
        rw [hseen'', hseen']
        exact hdue n
      · exact List.mem_cons_of_mem _ (ih hrest hmem he' hfired' fun n => hseen' ▸ hdue n)

theorem not_mem_winners_of_lt {sort : SliceSort} {bindings : List Binding}
    {property value : String} {d : Device} {b b' : Binding} (hb : b ∈ bindings)
    (hmatch : bindingMatches b property value d = true)
    (hlt : specificity b'.event.selector < specificity b.event.selector) :
    candidateOf b' ∉ winners sort bindings property value d := by
  intro hmem
  obtain ⟨b'', hwins, heq⟩ := (mem_winners_iff sort).mp hmem
  have : b'' = b' := congrArg Candidate.binding heq
  subst this
  exact absurd (hwins.top b hb hmatch) (not_le.mpr hlt)

/-- **Scores decide between two Bindings.**  Of two that match, let the highest-ranked field
that only one sets be set in the first.  The second is never returned exactly when the first has
the higher score, a label key counting half a device name; so it is when the second has no more
label keys.  (A Binding with a MinDuration and no Condition is never returned.) -/
theorem never_returned_iff {b b' : Binding} {property value : String} {d : Device}
    (hnames : b.name ≠ b'.name) (hmatch : bindingMatches b property value d = true)
    (hmatch' : bindingMatches b' property value d = true)
    (houtranks : Outranks b.event.selector b'.event.selector) :
    (NeverReturned b b' property value d ↔
        specificity b'.event.selector < specificity b.event.selector ∨
          (0 < b'.event.minDuration ∧ b'.condition = "")) ∧
      (b'.event.selector.labelSelector.entries.length ≤
          b.event.selector.labelSelector.entries.length →
        NeverReturned b b' property value d) := by
  have hhigher : specificity b'.event.selector < specificity b.event.selector →
      NeverReturned b b' property value d := fun hlt st clock m bindings _ hb _ hmem =>
    not_mem_winners_of_lt hb hmatch hlt (mem_of_mem_dispatchLoop hmem).1
  refine ⟨⟨fun hnever => ?_, ?_⟩, fun hlabels =>
    hhigher (specificity_lt_of_outranks houtranks hlabels)⟩
  · by_contra hnot
    obtain ⟨hscore, hcondition⟩ := not_or.mp hnot
    -- a List of the two, and a value first seen longer ago than any MinDuration
    let st : Settings := inlineSettings
    let clock : Nat → Time := fun _ => 2 ^ 63
    let m : Matcher := Matcher.put {} ⟨property, d.name⟩
      { value := value, firstSeen := 0, device := some d }
    have hlist : ([b, b'].map Binding.name).Nodup := by simp [hnames]
    refine hnever st clock m [b, b'] hlist (by simp) (by simp) ?_
    have hwins : Wins [b, b'] property value d b' := by
      refine ⟨by simp, hmatch', fun x hx _ => ?_⟩
      rcases List.mem_cons.mp hx with rfl | hx
      · exact not_lt.mp hscore
      · rw [List.mem_singleton.mp hx]
    have hnodup : ((winners st.sort [b, b'] property value d).map Candidate.name).Nodup :=
      List.pairwise_map.mpr ((winners_pairwise_name st.sort hlist).imp fun h => ne_of_lt h)
    refine mem_dispatchLoop_of_due hnodup ((mem_winners_iff _).mpr ⟨b', hwins, rfl⟩) ?_
      (e := { value := value, firstSeen := 0, device := some d }) ?_ rfl fun _ => ?_
    · rcases le_or_gt b'.event.minDuration 0 with hle | hlt
      · exact Or.inl hle
      · exact Or.inr fun h => hcondition ⟨hlt, h⟩
    · rw [lookup_observeValue]
      simp only [m, Matcher.lookup_put, if_true]
    · have hlt := b'.event.minDuration_lt
      show b'.event.minDuration ≤ max (-(2 ^ 63)) (min (2 ^ 63 - 1) ((2 : Int) ^ 63 - 0))
      have : b'.event.minDuration ≤ 2 ^ 63 - 1 := Int.le_sub_one_of_lt hlt
      exact le_trans this (by norm_num)
  · rintro (hlt | ⟨hdebounced, hempty⟩)
    · exact hhigher hlt
    · intro st clock m bindings _ _ _ hmem
      rcases (mem_of_mem_dispatchLoop hmem).2 with hle | hne
      · exact absurd hdebounced (not_lt.mpr hle)
      · exact hne hempty

/-- A Binding for a zone is never returned beside one for a device of the zone. -/
theorem never_returned_iff_zone :
    Outranks byAddress.event.selector byZone.event.selector ∧
      NeverReturned byAddress byZone "action" "single" hallButton := by
  have houtranks : Outranks byAddress.event.selector byZone.event.selector := by
    simp [Outranks, fieldsSet, setFirst, byAddress, byZone]
  exact ⟨houtranks, (never_returned_iff (by decide) (by decide +kernel) (by decide +kernel)
    houtranks).2 (by decide)⟩

/-- The address outranks the name, but three label keys make up for it. -/
theorem labels_outweigh_address :
    Outranks byAddress.event.selector byLabels.event.selector ∧
      bindingMatches byAddress "action" "single" hallButton = true ∧
      bindingMatches byLabels "action" "single" hallButton = true ∧
      (findConditions inlineSettings (fun _ => 0) {} ⟨"action", "single", some hallButton⟩
        (some [byAddress, byLabels])).2 = ["hall-default"] := by
  refine ⟨?_, by decide +kernel, by decide +kernel, by decide +kernel⟩
  simp [Outranks, fieldsSet, setFirst, byAddress, byLabels]

end IotController.Bindings
