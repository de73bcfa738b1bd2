/-
  The Alertmanager webhook
  (`modules/hookreceiver/hookreceiver.go`).

  The handler decodes a webhook message and forwards its alerts, one request each, to an
  event receiver, which is a parameter here and in the running system the Conditioner's
  Alert RPC.  Its errors are logged.

  Alertmanager marks every alert of a group with its own status, and the group with a status
  of its own; the handler forwards the group's.  Group and common labels only feed tracing.
-/
import IotController.Conditioner.WindowSafety

namespace IotController.HookReceiver

open Foundation Api Proto Conditioner

def alertNameLabel : String := "alertname"

def zoneLabel : String := "zone"

/-- An alert of a group. -/
structure Alert where
  status : String
  labels : GoMap String String

/-- A group of alerts. -/
structure Message where
  status : String
  alerts : List Alert

def labelStep (acc : String × String) (label : Σ _ : String, String) : String × String :=
  if label.1 = zoneLabel then (acc.1, label.2)
  else if label.1 = alertNameLabel then (label.2, acc.2)
  else acc

def readLabels (range : MapOrder) (n : Nat) (labels : GoMap String String) : String × String :=
  (range.order n labels.entries).foldl labelStep ("", "")

section Handler

variable {σ : Type} (client : AlertRequest → σ → Option Error × σ) (range : MapOrder)

def handlerStep (status : String) (acc : Nat × σ) (alert : Alert) : Nat × σ :=
  let (name, zone) := readLabels range acc.1 alert.labels
  if zone = "" ∧ name = "" then (acc.1 + 1, acc.2)
  else
    let (_, s) := client { name := name, status := status, zone := zone } acc.2
    (acc.1 + 1, s)

def handler (body : Except String Message) (s : σ) : Option (Nat × String) × σ :=
  match body with
  | .error _ => (some (400, "invalid request body"), s)
  | .ok m => (none, (m.alerts.foldl (handlerStep client range m.status) (0, s)).2)

end Handler

/-! ## What is forwarded -/

def Alert.label (a : Alert) (key : String) : String := (a.labels.lookup key).getD ""

def Alert.carries (a : Alert) : Bool := a.label zoneLabel ≠ "" || a.label alertNameLabel ≠ ""

def Alert.request (status : String) (a : Alert) : AlertRequest :=
  { name := a.label alertNameLabel, status := status, zone := a.label zoneLabel }

def Message.ownRequests (m : Message) : List AlertRequest :=
  (m.alerts.filter Alert.carries).map fun a => a.request a.status

def Message.groupRequests (m : Message) : List AlertRequest :=
  (m.alerts.filter Alert.carries).map fun a => a.request m.status

theorem labelStep_foldl : ∀ (entries : List (Σ _ : String, String)) (acc : String × String),
    entries.NodupKeys →
      entries.foldl labelStep acc =
        ((entries.dlookup alertNameLabel).getD acc.1, (entries.dlookup zoneLabel).getD acc.2) := by
  intro entries
  induction entries with
  | nil => intro acc _; rfl
  | cons e rest ih =>
    intro acc hnodup
    obtain ⟨key, value⟩ := e
    obtain ⟨hfresh, hrest⟩ := List.nodupKeys_cons.mp hnodup
    have hnone : rest.dlookup key = none := List.dlookup_eq_none.mpr hfresh
    have hne : alertNameLabel ≠ zoneLabel := by decide
    rw [List.foldl_cons, ih _ hrest]
    by_cases hzone : key = zoneLabel
    · subst hzone
      rw [List.dlookup_cons_eq, List.dlookup_cons_ne _ _ hne, hnone]
      simp [labelStep]
    · by_cases hname : key = alertNameLabel
      · subst hname
        rw [List.dlookup_cons_eq, List.dlookup_cons_ne _ _ (Ne.symm hzone), hnone]
        simp [labelStep, hzone]
      · rw [List.dlookup_cons_ne _ _ (Ne.symm hname), List.dlookup_cons_ne _ _ (Ne.symm hzone)]
        simp [labelStep, hzone, hname]

theorem readLabels_eq (range : MapOrder) (n : Nat) (a : Alert) :
    readLabels range n a.labels = (a.label alertNameLabel, a.label zoneLabel) := by
  have hperm := range.perm n a.labels.entries
  have hnodup : (range.order n a.labels.entries).NodupKeys :=
    (List.perm_nodupKeys hperm).mpr a.labels.nodupKeys
  rw [readLabels, labelStep_foldl _ _ hnodup, List.perm_dlookup _ hnodup hperm,
    List.perm_dlookup _ hnodup hperm]
  rfl

theorem handler_snd {σ : Type} (client : AlertRequest → σ → Option Error × σ)
    (range : MapOrder) (m : Message) (s : σ) :
    (handler client range (.ok m) s).2 =
      m.groupRequests.foldl (fun s req => (client req s).2) s := by
  simp only [handler, Message.groupRequests]
  generalize 0 = n
  induction m.alerts generalizing n s with
  | nil => rfl
  | cons a _ ih =>
    have hcarries : a.carries = true ↔
        ¬ (a.label zoneLabel = "" ∧ a.label alertNameLabel = "") := by
      simp only [Alert.carries, Bool.or_eq_true, decide_eq_true_eq]
      tauto
    rw [List.foldl_cons, List.filter_cons]
    simp only [handlerStep, readLabels_eq]
    split
    · rename_i hskip
      rw [if_neg (fun h => hcarries.mp h hskip)]
      exact ih s (n + 1)
    · rename_i hsend
      rw [if_pos (hcarries.mpr hsend), List.map_cons, List.foldl_cons]
      exact ih _ (n + 1)

/-! ## Status fidelity -/

def recorder (answer : AlertRequest → Option Error) (req : AlertRequest)
    (received : List AlertRequest) : Option Error × List AlertRequest :=
  (answer req, received ++ [req])

def conditioner (env : Env) (list : Except String (List Condition)) (req : AlertRequest)
    (s : World) : Option Error × World :=
  Conditioner.alert env list req s

theorem recorder_foldl (answer : AlertRequest → Option Error) :
    ∀ (reqs received : List AlertRequest),
      reqs.foldl (fun s req => (recorder answer req s).2) received = received ++ reqs := by
  intro reqs
  induction reqs with
  | nil => intro received; simp
  | cons _ _ ih =>
    intro received
    rw [List.foldl_cons, ih]
    simp [recorder]

theorem Message.groupRequests_eq_iff (m : Message) :
    m.groupRequests = m.ownRequests ↔ ∀ a ∈ m.alerts, a.carries = true → a.status = m.status := by
  rw [Message.groupRequests, Message.ownRequests, List.map_inj_left]
  simp only [List.mem_filter, Alert.request, AlertRequest.mk.injEq, true_and, and_true, and_imp]
  constructor
  · intro h a ha hcarries
    exact (h a ha hcarries).symm
  · intro h a ha hcarries
    exact (h a ha hcarries).symm

/-- **Status fidelity.**  Every alert with a zone or an alert name is forwarded exactly once
with its own status exactly if each has the group's status; the Conditioner then ends where
handling each alert by its own status ends. -/
theorem handler_faithful_iff (range : MapOrder) (m : Message)
    (answer : AlertRequest → Option Error) :
    ((handler (recorder answer) range (.ok m) []).2 = m.ownRequests ↔
        ∀ a ∈ m.alerts, a.carries = true → a.status = m.status) ∧
      ((∀ a ∈ m.alerts, a.carries = true → a.status = m.status) →
        ∀ env list s, (handler (conditioner env list) range (.ok m) s).2 =
          m.ownRequests.foldl (fun s req => (Conditioner.alert env list req s).2) s) := by
  refine ⟨?_, fun hstatus env list s => ?_⟩
  · rw [handler_snd, recorder_foldl, List.nil_append]
    exact m.groupRequests_eq_iff
  · rw [handler_snd, m.groupRequests_eq_iff.mpr hstatus]
    rfl

/-- A group that is still firing because of its first alert; the second, the
heater's, has resolved. -/
def mixedGroup : Message where
  status := "firing"
  alerts :=
    [{ status := "firing"
       labels := (AList.singleton "alertname" "lowHumidity").insert "zone" "tent" },
      { status := "resolved"
        labels := (AList.singleton "alertname" "lowTemp").insert "zone" "tent" }]

/-- The resolved alert is forwarded as firing, and the heater goes on; by its own status nothing
is sent. -/
theorem mixedGroup_reactivates :
    (handler (recorder fun _ => none) MapOrder.stored (.ok mixedGroup) []).2 =
        [⟨"lowHumidity", "firing", "tent"⟩, ⟨"lowTemp", "firing", "tent"⟩] ∧
      mixedGroup.ownRequests =
        [⟨"lowHumidity", "firing", "tent"⟩, ⟨"lowTemp", "resolved", "tent"⟩] ∧
      (handler (conditioner heaterEnv (.ok [heaterCondition])) MapOrder.stored (.ok mixedGroup)
        World.initial).2.log = [⟨.setState "tent" .on, .ok⟩] ∧
      (mixedGroup.ownRequests.foldl
        (fun s req => (Conditioner.alert heaterEnv (.ok [heaterCondition]) req s).2)
        World.initial).log = [] := by
  decide

/-- A group in which everything fires is forwarded faithfully. -/
theorem firingGroup_faithful :
    let m : Message :=
      { status := "firing"
        alerts := [{ status := "firing", labels := AList.singleton "zone" "tent" }] }
    (handler (recorder fun _ => none) MapOrder.stored (.ok m) []).2 = m.ownRequests :=
  (handler_faithful_iff MapOrder.stored _ fun _ => none).1.mpr (by simp)

end IotController.HookReceiver
