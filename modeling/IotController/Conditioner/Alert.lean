/-
  The Alert RPC and the window check
  (`Alert`, `matchCondition` and `runAlertWindowCheckAt` of
  `modules/conditioner/conditioner.go`).

  An Alert is a loop over the Conditions of the cluster and, inside it, over the
  Remediations of each Condition that matches.  The window check is a loop over a snapshot
  of the tracked Remediations, in the order the runtime picks.
-/
import IotController.Conditioner.Remediate
import IotController.Foundation.Run
import Mathlib.Data.List.TakeWhile

namespace IotController.Conditioner

open Foundation Api Proto Compute

/-! ## Matching -/

/-- An alert as it reaches the Conditioner. -/
structure AlertRequest where
  name : String
  status : String
  zone : String
  deriving DecidableEq

def alertStatusFiring : String := "firing"

def alertStatusResolved : String := "resolved"

def AlertRequest.labels (req : AlertRequest) : GoMap String String :=
  ((∅ : GoMap String String).insert "alertname" req.name).insert "zone" req.zone

def matchCondition (labels : GoMap String String) (cond : Condition) : Bool :=
  cond.enabled && !cond.matches.isEmpty &&
    cond.matches.all fun m => m.labels.entries.all fun e => labels.lookup e.1 = some e.2

/-! ## The Alert RPC -/

variable (env : Env) (condName : String) (rem : Remediation) (s : World)

def trackAlertActive (s : World) : World :=
  { s with alertActive := s.alertActive.insert (alertActiveKey condName rem.zone) rem }

def untrackAlertActive (s : World) : World :=
  { s with alertActive := s.alertActive.erase (alertActiveKey condName rem.zone) }

/-- The firing branch inside the window: activate, and track what has a window
that will close. -/
def alertActivate (s : World) : World :=
  match activateRemediationFromSource env condName rem .alert s with
  | (some _, s) => s
  | (none, s) => if rem.timeIntervals = [] then s else trackAlertActive condName rem s

/-- The firing branch.  The clock is read only for a Remediation that has
intervals. -/
def alertFiring (s : World) : World :=
  if rem.timeIntervals = [] then alertActivate env condName rem s
  else if withinActiveWindow env rem (env.clock s.tick) then alertActivate env condName rem s.next
  else
    (forceDeactivateFromSource env condName rem .alert (untrackAlertActive condName rem s.next)).2

def alertResolved (s : World) : World :=
  (deactivateRemediationFromSource env condName rem .alert (untrackAlertActive condName rem s)).2

def alertRemediation (status condName : String) (s : World) (rem : Remediation) :
    World :=
  if status = alertStatusFiring then alertFiring env condName rem s
  else if status = alertStatusResolved then alertResolved env condName rem s
  else s

def alertCondition (req : AlertRequest) (s : World) (cond : Condition) : World :=
  if matchCondition req.labels cond then
    cond.remediations.foldl (alertRemediation env req.status cond.name) s
  else s

def alert (list : Except String (List Condition)) (req : AlertRequest) (s : World) :
    Option Error × World :=
  match list with
  | .error message => (some (.listConditions message), s)
  | .ok conditions => (none, conditions.foldl (alertCondition env req) s)

/-- `strings.Cut(key, "/")`, the part before the first slash. -/
def cutSlash (key : String) : String := String.ofList (key.toList.takeWhile (· ≠ '/'))

/-- One entry in the loop of `runAlertWindowCheckAt`; it is deleted even if the deactivation
failed. -/
def windowCheckStep (now : Time) (s : World) (entry : Σ _ : String, Remediation) :
    World :=
  if withinActiveWindow env entry.2 now then s
  else
    let s := (forceDeactivateFromSource env (cutSlash entry.1) entry.2 .alert s).2
    { s with alertActive := s.alertActive.erase entry.1 }

def runAlertWindowCheckAt (now : Time) (s : World) : World :=
  (env.range.order s.tick s.alertActive.entries).foldl (windowCheckStep env now) s.next

/-- An alert, or a tick of the window check. -/
inductive AlertEvent where
  | alert (list : Except String (List Condition)) (req : AlertRequest)
  | windowCheck (now : Time)

def alertStep (s : World) : AlertEvent → World
  | .alert list req => (Conditioner.alert env list req s).2
  | .windowCheck now => runAlertWindowCheckAt env now s

/-! ## Keys -/

/-- The name fits into a key. -/
def Slashless (name : String) : Prop := '/' ∉ name.toList

theorem cutSlash_alertActiveKey {condName : String} (h : '/' ∉ condName.toList) (zone : String) :
    cutSlash (alertActiveKey condName zone) = condName := by
  have htake : (condName.toList ++ '/' :: zone.toList).takeWhile (· ≠ '/') = condName.toList := by
    rw [List.takeWhile_append_of_pos]
    · simp
    · intro c hc
      simpa using fun heq : c = '/' => h (heq ▸ hc)
  have hlist : (alertActiveKey condName zone).toList = condName.toList ++ '/' :: zone.toList := by
    simp only [alertActiveKey, String.toList_append, List.append_assoc]
    rfl
  rw [cutSlash, hlist, htake, String.ofList_toList]

theorem slash_notMem_cutSlash (key : String) : '/' ∉ (cutSlash key).toList := by
  intro h
  rw [cutSlash, String.toList_ofList] at h
  simpa using List.mem_takeWhile_imp h

theorem alertActiveKey_inj {a b z w : String} (ha : '/' ∉ a.toList) (hb : '/' ∉ b.toList)
    (h : alertActiveKey a z = alertActiveKey b w) : a = b ∧ z = w := by
  have hab : a = b := by
    rw [← cutSlash_alertActiveKey ha z, h, cutSlash_alertActiveKey hb w]
  subst hab
  refine ⟨rfl, ?_⟩
  have hlist := congrArg String.toList h
  simp only [alertActiveKey, String.toList_append, List.append_cancel_left_eq] at hlist
  exact String.toList_inj.mp hlist

theorem alertActiveKey_ne {a b z w : String} (ha : '/' ∉ a.toList) (hb : '/' ∉ b.toList)
    (hzone : w ≠ z) : alertActiveKey a z ≠ alertActiveKey b w := fun heq =>
  hzone (alertActiveKey_inj ha hb heq).2.symm

theorem CacheCoherent.of_frame {a b z w : String} (ha : '/' ∉ a.toList) (hb : '/' ∉ b.toList)
    (hzone : w ≠ z) {s t : World} (hframe : OwnFrame b w s t) (h : CacheCoherent a z s) :
    CacheCoherent a z t := by
  intro entry hentry hspecified
  -- the two maps build their keys in the same way
  rw [hframe.condState (condStateKey a z) (alertActiveKey_ne ha hb hzone)] at hentry
  rw [hframe.lastSetState_eq (Ne.symm hzone)]
  exact h entry hentry hspecified

/-! ## Effects -/

theorem untrackAlertActive_frame :
    OwnFrame condName rem.zone s (untrackAlertActive condName rem s) :=
  { OwnFrame.refl condName rem.zone s with
    alertActive := fun _ hkey => AList.lookup_erase_ne hkey }

theorem trackAlertActive_frame :
    OwnFrame condName rem.zone s (trackAlertActive condName rem s) :=
  { OwnFrame.refl condName rem.zone s with
    alertActive := fun _ hkey => AList.lookup_insert_ne hkey }

theorem alertActivate_frame :
    OwnFrame condName rem.zone s (alertActivate env condName rem s) := by
  have hactivate := (activate_frame env condName rem .alert s).1
  unfold alertActivate
  revert hactivate
  generalize activateRemediationFromSource env condName rem .alert s = result
  obtain ⟨_ | e, t⟩ := result
  · intro hactivate
    simp only
    split
    · exact hactivate
    · exact hactivate.trans (trackAlertActive_frame condName rem t)
  · intro hactivate; exact hactivate

theorem alertRemediation_frame (status condName : String) (s : World) (rem : Remediation) :
    OwnFrame condName rem.zone s (alertRemediation env status condName s rem) := by
  unfold alertRemediation
  split
  · unfold alertFiring
    split
    · exact alertActivate_frame env condName rem s
    · split
      · exact (OwnFrame.next condName rem.zone s).trans
          (alertActivate_frame env condName rem s.next)
      · exact ((OwnFrame.next condName rem.zone s).trans
          (untrackAlertActive_frame condName rem s.next)).trans
          (forceDeactivate_frame env condName rem .alert _).1
  · split
    · exact (untrackAlertActive_frame condName rem s).trans
        (deactivate_frame env condName rem .alert _).1
    · exact OwnFrame.refl condName rem.zone s

theorem lookup_untrackAlertActive {condName key : String} {rem r : Remediation} {s : World}
    (h : (untrackAlertActive condName rem s).alertActive.lookup key = some r) :
    s.alertActive.lookup key = some r := by
  simp only [untrackAlertActive, GoMap.lookup_erase_eq] at h
  split at h
  · cases h
  · exact h

theorem alertActivate_tracked {env : Env} {condName key : String} {rem r : Remediation}
    {s : World} (h : (alertActivate env condName rem s).alertActive.lookup key = some r) :
    s.alertActive.lookup key = some r ∨ (key = alertActiveKey condName rem.zone ∧ r = rem) := by
  have hactivate := (activate_frame env condName rem .alert s).2
  unfold alertActivate at h
  revert h hactivate
  generalize activateRemediationFromSource env condName rem .alert s = result
  obtain ⟨_ | e, t⟩ := result
  · intro h hactivate
    simp only at h hactivate
    split at h
    · exact Or.inl (hactivate ▸ h)
    · simp only [trackAlertActive, GoMap.lookup_insert_eq] at h
      split at h
      · rename_i hkey
        cases h
        exact Or.inr ⟨hkey, rfl⟩
      · exact Or.inl (hactivate ▸ h)
  · intro h hactivate
    exact Or.inl (hactivate ▸ h)

theorem alertRemediation_tracked {env : Env} {status condName key : String}
    {rem r : Remediation} {s : World}
    (h : (alertRemediation env status condName s rem).alertActive.lookup key = some r) :
    s.alertActive.lookup key = some r ∨ (key = alertActiveKey condName rem.zone ∧ r = rem) := by
  unfold alertRemediation at h
  split at h
  · unfold alertFiring at h
    split at h
    · exact alertActivate_tracked h
    · split at h
      · exact alertActivate_tracked (s := s.next) h
      · rw [(forceDeactivate_frame _ _ _ _ _).2] at h
        exact Or.inl (lookup_untrackAlertActive (s := s.next) h)
  · split at h
    · rw [alertResolved, (deactivate_frame _ _ _ _ _).2] at h
      exact Or.inl (lookup_untrackAlertActive h)
    · exact Or.inl h

theorem alert_invariant {env : Env} {req : AlertRequest} {inv : World → Prop}
    {list : Except String (List Condition)}
    (preserves : ∀ conditions, list = .ok conditions → ∀ c ∈ conditions,
      matchCondition req.labels c = true → ∀ r ∈ c.remediations, ∀ s, inv s →
        inv (alertRemediation env req.status c.name s r))
    {s : World} (hs : inv s) : inv (alert env list req s).2 := by
  cases list with
  | error => exact hs
  | ok conditions =>
    show inv (run (alertCondition env req) s conditions)
    refine run_invariant_of_mem ?_ hs
    intro s c hc hs
    unfold alertCondition
    split
    · rename_i hmatch
      exact run_invariant_of_mem (fun s r hr hs => preserves conditions rfl c hc hmatch r hr s hs) hs
    · exact hs

theorem windowCheck_foldl_alertActive (now : Time) (key : String) :
    ∀ (entries : List (Σ _ : String, Remediation)) (s : World),
      (entries.foldl (windowCheckStep env now) s).alertActive.lookup key =
        if entries.any fun e => e.1 = key && !withinActiveWindow env e.2 now then none
        else s.alertActive.lookup key := by
  intro entries
  induction entries with
  | nil => intro s; rfl
  | cons e _ ih =>
    intro s
    rw [List.foldl_cons, ih, List.any_cons]
    cases hwindow : withinActiveWindow env e.2 now with
    | true => simp only [windowCheckStep, hwindow, if_true, Bool.not_true, Bool.and_false,
        Bool.false_or]
    | false =>
      simp only [windowCheckStep, hwindow, Bool.false_eq_true, if_false, Bool.not_false,
        Bool.and_true, (forceDeactivate_frame _ _ _ _ _).2, GoMap.lookup_erase_eq]
      by_cases hkey : e.1 = key
      · simp [hkey]
      · rw [decide_eq_false hkey, Bool.false_or, if_neg (fun h : key = e.1 => hkey h.symm)]

/-- **The window check on the tracked entries.**  An entry stays exactly when the
time is inside its window. -/
theorem runAlertWindowCheckAt_alertActive (now : Time) (s : World) (key : String) :
    (runAlertWindowCheckAt env now s).alertActive.lookup key =
      (s.alertActive.lookup key).filter fun rem => withinActiveWindow env rem now := by
  rw [runAlertWindowCheckAt, windowCheck_foldl_alertActive]
  have hmem : ∀ e : (Σ _ : String, Remediation), e ∈ env.range.order s.tick s.alertActive.entries ↔
      s.alertActive.lookup e.1 = some e.2 := fun e => by
    rw [env.range.mem_order_iff, GoMap.lookup_eq_some_iff_mem]
  have hany : ((env.range.order s.tick s.alertActive.entries).any fun e =>
      e.1 = key && !withinActiveWindow env e.2 now) = true ↔
        ∃ rem, s.alertActive.lookup key = some rem ∧ withinActiveWindow env rem now = false := by
    simp only [List.any_eq_true, hmem, Bool.and_eq_true, decide_eq_true_eq, Bool.not_eq_true']
    constructor
    · rintro ⟨e, he, rfl, hout⟩
      exact ⟨e.2, he, hout⟩
    · rintro ⟨rem, hrem, hout⟩
      exact ⟨⟨key, rem⟩, hrem, rfl, hout⟩
  show (if _ then none else s.alertActive.lookup key) = _
  cases hlookup : s.alertActive.lookup key with
  | none =>
    rw [if_neg (fun h => by
      obtain ⟨rem, hrem, -⟩ := hany.mp h
      rw [hlookup] at hrem
      cases hrem)]
    rfl
  | some rem =>
    cases hwindow : withinActiveWindow env rem now with
    | true =>
      rw [if_neg (fun h => by
        obtain ⟨rem', hrem', hout⟩ := hany.mp h
        rw [hlookup, Option.some.injEq] at hrem'
        rw [← hrem', hwindow] at hout
        cases hout)]
      simp [Option.filter, hwindow]
    | false =>
      rw [if_pos (hany.mpr ⟨rem, hlookup, hwindow⟩)]
      simp [Option.filter, hwindow]

end IotController.Conditioner
