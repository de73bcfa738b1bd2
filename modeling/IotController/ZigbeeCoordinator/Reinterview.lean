/-
  Re-interviews on request
  (`modules/zigbeecoordinator/reinterview.go`).

  An operator annotates a Device.  Every poll lists the Devices and registers those with the
  annotation as pending, one after the other; the next message from a pending address takes
  it out and starts an enrichment.  One that fails registers its request again, one that
  succeeds clears the annotation.
-/
import IotController.ZigbeeCoordinator.AddressMap

namespace IotController.ZigbeeCoordinator.Reinterview

open Foundation

/-- A request, with the annotation's value. -/
structure Request where
  number : Nat
  value : String
  deriving DecidableEq

/-- The value of the annotation is `requestedBy`. -/
structure PendingReinterview where
  ieee : IEEE
  nwk : NWK
  deviceCRName : String
  request : Request
  deriving DecidableEq

/-- What is read of a Device. -/
structure AnnotatedDevice where
  /-- `deviceAddressesFromSpec`; its errors are only logged -/
  addresses : Option (IEEE × NWK) := none
  request : Option Request := none
  deriving DecidableEq

/-- The Devices, and who handles them. -/
structure State where
  devices : GoMap String AnnotatedDevice := ∅
  listed : List (String × AnnotatedDevice) := []
  pendingReinterview : GoMap NWK PendingReinterview := ∅
  reading : List PendingReinterview := []
  clearing : List PendingReinterview := []
  requests : Nat := 0
  /-- the requests whose enrichment succeeded and whose annotation was cleared -/
  done : List Request := []
  restarted : Bool := false

/-- A step of one party. -/
inductive Action where
  /-- a Device is created, written or deleted; its annotation stays -/
  | edit (name : String) (addresses : Option (Option (IEEE × NWK)))
  | annotate (name value : String)
  | list (fails : Bool)
  | visit
  | message (srcNwk : NWK)
  | read (p : PendingReinterview) (succeeds : Bool)
  | clear (p : PendingReinterview) (succeeds : Bool)

def State.register (s : State) (p : PendingReinterview) : State :=
  { s with pendingReinterview := s.pendingReinterview.insert p.nwk p }

def registration (name : String) (d : AnnotatedDevice) : Option PendingReinterview := do
  let request ← d.request
  if request.value = "" then none
  let (ieee, nwk) ← d.addresses
  some ⟨ieee, nwk, name, request⟩

def State.trigger (s : State) (srcNwk : NWK) : State :=
  match s.pendingReinterview.lookup srcNwk with
  | none => s
  | some p =>
    { s with
      pendingReinterview := s.pendingReinterview.erase srcNwk
      reading := p :: s.reading
      restarted := s.restarted || s.done.contains p.request }

def State.setRequest (s : State) (name : String) (request : Option Request) : State :=
  match s.devices.lookup name with
  | none => s
  | some d => { s with devices := s.devices.insert name { d with request } }

/-- One step of the poll, a message or an enrichment. -/
def step (s : State) : Action → State
  | .edit name none => { s with devices := s.devices.erase name }
  | .edit name (some addresses) =>
    { s with devices := s.devices.insert name { (s.devices.lookup name).getD {} with addresses } }
  | .annotate name value =>
    { s.setRequest name (some ⟨s.requests, value⟩) with requests := s.requests + 1 }
  | .list fails =>
    if s.listed = [] ∧ fails = false then
      { s with listed := s.devices.entries.map fun e => (e.1, e.2) }
    else s
  | .visit =>
    match s.listed with
    | [] => s
    | (name, d) :: listed =>
      ((registration name d).map fun p => { s with listed }.register p).getD { s with listed }
  | .message srcNwk => s.trigger srcNwk
  | .read p succeeds =>
    if p ∈ s.reading then
      let s := { s with reading := s.reading.erase p }
      if succeeds then { s with clearing := p :: s.clearing } else s.register p
    else s
  | .clear p succeeds =>
    if p ∈ s.clearing then
      let s := { s with clearing := s.clearing.erase p }
      if succeeds then { s.setRequest p.deviceCRName none with done := p.request :: s.done }
      else s
    else s

/-! ## One enrichment at a time -/

def State.inFlight (s : State) (nwk : NWK) : Nat :=
  (s.reading ++ s.clearing).countP fun p => p.nwk = nwk

/-- Whatever comes, an address has one enrichment at a time, and a done request starts none. -/
def SingleFlight (s : State) : Prop :=
  ∀ messages : List NWK, let t := run step s (messages.map .message)
    (∀ nwk, t.inFlight nwk ≤ 1) ∧ t.restarted = false

/-- A registration finds no enrichment of its address and its request not done; no pending
request becomes done. -/
def Orderly (s : State) : Action → Prop
  | .visit => ∀ name d listed, s.listed = (name, d) :: listed → ∀ p, registration name d = some p →
      s.inFlight p.nwk = 0 ∧ p.request ∉ s.done
  | .read p false => p ∈ s.reading → p.request ∉ s.done
  | .clear p true => p ∈ s.clearing →
      ∀ nwk q, s.pendingReinterview.lookup nwk = some q → q.request ≠ p.request
  | _ => True

/-- An address has one enrichment at most, and none while it is pending; what is pending is
not done. -/
structure Quiet (s : State) : Prop where
  single : ∀ nwk, s.inFlight nwk ≤ 1
  free : ∀ nwk p, s.pendingReinterview.lookup nwk = some p → s.inFlight nwk = 0
  keyed : ∀ nwk p, s.pendingReinterview.lookup nwk = some p → p.nwk = nwk ∧ p.request ∉ s.done
  fresh : s.restarted = false

variable {s : State}

theorem quiet_init : Quiet {} := by
  constructor <;> simp [State.inFlight]

theorem setRequest_eq (s : State) (name : String) (request : Option Request) :
    ∃ devices, s.setRequest name request = { s with devices } := by
  unfold State.setRequest
  split <;> exact ⟨_, rfl⟩

theorem inFlight_of_perm {t : State} {p : PendingReinterview}
    (h : (t.reading ++ t.clearing).Perm (p :: (s.reading ++ s.clearing))) (nwk : NWK) :
    t.inFlight nwk = s.inFlight nwk + if p.nwk = nwk then 1 else 0 := by
  simp only [State.inFlight, h.countP_eq, List.countP_cons, decide_eq_true_eq]

namespace Quiet

section Steps

variable (h : Quiet s)
include h

theorem register {p : PendingReinterview} (hfree : s.inFlight p.nwk = 0)
    (hrequest : p.request ∉ s.done) : Quiet (s.register p) := by
  obtain ⟨single, free, keyed, fresh⟩ := h
  refine ⟨single, ?_, ?_, fresh⟩
  all_goals simp only [State.register, GoMap.lookup_insert_eq]
  · change ∀ nwk q, _ → s.inFlight nwk = 0
    grind
  · grind

theorem trigger (srcNwk : NWK) : Quiet (s.trigger srcNwk) := by
  cases hp : s.pendingReinterview.lookup srcNwk with
  | none => simpa only [State.trigger, hp] using h
  | some p =>
    have hflight := @inFlight_of_perm s (s.trigger srcNwk) p (by simp [State.trigger, hp])
    have hpending : ∀ nwk, (s.trigger srcNwk).pendingReinterview.lookup nwk =
        if nwk = srcNwk then none else s.pendingReinterview.lookup nwk := by
      simp only [State.trigger, hp, GoMap.lookup_erase_eq, implies_true]
    have hrest : (s.trigger srcNwk).done = s.done ∧
        (s.trigger srcNwk).restarted = (s.restarted || s.done.contains p.request) := by
      simp only [State.trigger, hp, and_self]
    obtain ⟨single, free, keyed, fresh⟩ := h
    constructor <;> grind

theorem leaves {t : State} {p : PendingReinterview}
    (hperm : (s.reading ++ s.clearing).Perm (p :: (t.reading ++ t.clearing)))
    (hpending : t.pendingReinterview = s.pendingReinterview) (hdone : t.done = s.done)
    (hrestarted : t.restarted = s.restarted) : Quiet t ∧ t.inFlight p.nwk = 0 := by
  have hflight := inFlight_of_perm hperm
  obtain ⟨single, free, keyed, fresh⟩ := h
  exact ⟨by constructor <;> grind, by grind⟩

theorem step {a : Action} (ha : Orderly s a) : Quiet (step s a) := by
  have hsame : ∀ devices listed requests, Quiet { s with devices, listed, requests } :=
    fun _ _ _ => ⟨h.single, h.free, h.keyed, h.fresh⟩
  cases a with
  | edit name addresses => cases addresses <;> exact hsame _ _ _
  | annotate name value =>
    obtain ⟨devices, hdevices⟩ := setRequest_eq s name (some ⟨s.requests, value⟩)
    simp only [Reinterview.step, hdevices]
    exact hsame _ _ _
  | list =>
    rw [Reinterview.step]
    split
    · exact hsame _ _ _
    · exact h
  | visit =>
    rw [Reinterview.step]
    split
    · exact h
    · rename_i name d listed hlisted
      cases hp : registration name d with
      | none => exact hsame _ _ _
      | some p =>
        obtain ⟨hfree, hdone⟩ := ha name d listed hlisted p hp
        exact (hsame s.devices listed s.requests).register hfree hdone
  | message srcNwk => exact h.trigger srcNwk
  | read p succeeds =>
    rw [Reinterview.step]
    split
    · rename_i hp
      have hperm := (List.perm_cons_erase hp).append_right s.clearing
      cases succeeds with
      | false =>
        obtain ⟨hgone, hnone⟩ :=
          @leaves s h { s with reading := s.reading.erase p } p hperm rfl rfl rfl
        exact hgone.register hnone (ha hp)
      | true =>
        have hflight : ∀ nwk, State.inFlight
            { s with reading := s.reading.erase p, clearing := p :: s.clearing } nwk =
              s.inFlight nwk := fun nwk => (hperm.trans List.perm_middle.symm).symm.countP_eq _
        exact ⟨fun nwk => (hflight nwk).trans_le (h.single nwk),
          fun nwk q hq => (hflight nwk).trans (h.free nwk q hq), h.keyed, h.fresh⟩
    · exact h
  | clear p succeeds =>
    rw [Reinterview.step]
    split
    · rename_i hp
      obtain ⟨hgone, -⟩ := @leaves s h { s with clearing := s.clearing.erase p } p
        (((List.perm_cons_erase hp).append_left _).trans List.perm_middle) rfl rfl rfl
      cases succeeds with
      | false => exact hgone
      | true =>
        obtain ⟨devices, hdevices⟩ := setRequest_eq
          { s with clearing := s.clearing.erase p } p.deviceCRName none
        simp only [if_true, hdevices]
        have hnot := ha hp
        have hkeyed := h.keyed
        exact ⟨hgone.single, hgone.free, by grind, h.fresh⟩
    · exact h

end Steps

theorem singleFlight (h : Quiet s) : SingleFlight s := by
  intro messages
  have hrun : Quiet (run Reinterview.step s (messages.map .message)) := by
    refine run_invariant_of_mem (fun t a ha ht => ht.step ?_) h
    obtain ⟨nwk, -, rfl⟩ := List.mem_map.mp ha
    trivial
  exact ⟨hrun.single, hrun.fresh⟩

end Quiet

theorem SingleFlight.of_pending (h : SingleFlight s) {nwk : NWK} {p : PendingReinterview}
    (hp : s.pendingReinterview.lookup nwk = some p) (hnwk : p.nwk = nwk) :
    s.inFlight nwk = 0 ∧ p.request ∉ s.done := by
  obtain ⟨hsingle, hfresh⟩ := h [nwk]
  have htrigger : run step s ([nwk].map .message) = s.trigger nwk := rfl
  rw [htrigger] at hsingle hfresh
  simp only [State.trigger, hp, Bool.or_eq_false_iff] at hsingle hfresh
  constructor
  · have hle := hsingle nwk
    rw [State.inFlight, List.cons_append, List.countP_cons_of_pos (by simp [hnwk])] at hle
    exact Nat.le_zero.mp (Nat.le_of_succ_le_succ hle)
  · simpa using hfresh.2

/-- **Single flight.**  All along a run, whatever messages come, there is one enrichment for an
address at a time and none starts for a request that is done, exactly if every registration
finds no enrichment of its address and its request not done, and no pending request becomes
done. -/
theorem single_flight_iff (actions : List Action) :
    (∀ n, SingleFlight (run step {} (actions.take n))) ↔ Along step Orderly {} actions := by
  refine property_iff_along (fun s h => h.singleFlight)
    (fun s a _ h => ⟨fun hsafe => ?_, fun ha => (h.step ha).singleFlight⟩)
    (fun s a _ h ha => h.step ha) quiet_init
  cases a with
  | edit | annotate | list | message => trivial
  | visit =>
    intro name d listed hlisted p hp
    simp only [step, hlisted, hp, Option.map_some, Option.getD_some] at hsafe
    exact hsafe.of_pending (AList.lookup_insert _) rfl
  | read p succeeds =>
    cases succeeds with
    | true => trivial
    | false =>
      intro hp
      simp only [step, hp, if_true, Bool.false_eq_true, if_false] at hsafe
      exact (hsafe.of_pending (AList.lookup_insert _) rfl).2
  | clear p succeeds =>
    cases succeeds with
    | false => trivial
    | true =>
      intro hp nwk q hq heq
      obtain ⟨devices, hdevices⟩ := setRequest_eq
        { s with clearing := s.clearing.erase p } p.deviceCRName none
      simp only [step, hp, if_true, hdevices] at hsafe
      exact (hsafe.of_pending hq (h.keyed nwk q hq).1).2 (heq ▸ List.mem_cons_self)

/-- A closet sensor with an annotation: the poll sees it twice before its enrichment is
through. -/
def closetRun : List Action :=
  [.edit "closet" (some (some (0x00124b0000000001, 0x1a2b))),
    .annotate "closet" "operator", .list false, .visit, .message 0x1a2b, .list false, .visit,
    .message 0x1a2b]

/-- Two enrichments of one address; when the first has cleared the annotation, the second poll
starts another. -/
theorem closet_enriched_twice :
    let p : PendingReinterview := ⟨0x00124b0000000001, 0x1a2b, "closet", ⟨0, "operator"⟩⟩
    (run step {} closetRun).inFlight 0x1a2b = 2 ∧
      (run step {} (closetRun.take 7 ++ [.read p true, .clear p true, .message 0x1a2b])).restarted =
        true := by
  decide +kernel

end IotController.ZigbeeCoordinator.Reinterview
