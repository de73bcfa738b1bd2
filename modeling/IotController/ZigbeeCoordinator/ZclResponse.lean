/-
  The tap for ZCL responses
  (`modules/zigbeecoordinator/zcl_response.go`).

  `sendZclAndAwait` registers a channel under the address, the cluster and the sequence
  number of its request, sends, waits and cleans up.  `notifyResponseWaiter` looks a parsed
  message up and then puts it on the channel that it found, in two steps between which
  everything else can happen.

  A channel carries the messages that it was looked up for and those that were put on it.
-/
import IotController.Foundation.Bytes
import IotController.Foundation.Channel
import IotController.Foundation.GoMap
import IotController.Foundation.Run

namespace IotController.ZigbeeCoordinator.ZclResponse

open Foundation

/-- What a call waits for. -/
structure ZclResponseKey where
  srcNwk : UInt16
  clusterID : UInt16
  txnSeq : UInt8
  deriving DecidableEq

/-- The frame of a message. -/
structure ZclFrame where
  transactionSequence : UInt32
  payload : List Byte
  deriving DecidableEq

/-- A message from the dongle. -/
structure ZclMessage where
  sourceNetwork : UInt32
  clusterID : UInt32
  frame : Option ZclFrame
  deriving DecidableEq

/-- The key of a message; one without a frame has none. -/
def ZclMessage.key? (m : ZclMessage) : Option ZclResponseKey :=
  m.frame.map fun f =>
    ⟨m.sourceNetwork.toUInt16, m.clusterID.toUInt16, f.transactionSequence.toUInt8⟩

/-- The errors of `sendZclAndAwait`. -/
inductive AwaitError where
  | send (nwk : UInt16) (err : String)
  | timeout (key : ZclResponseKey)
  | context (err : String)

/-- Where a call stands. -/
inductive Pc where
  | send
  | select
  | cleanup (result : Except AwaitError ZclMessage)

/-- A call of `sendZclAndAwait`, from its registration to its clean-up. -/
structure Call where
  key : ZclResponseKey
  channel : Nat
  pc : Pc := .send

/-- A channel, from its registration on, with what has happened to it. -/
structure Waiter where
  key : ZclResponseKey
  chan : Chan ZclMessage 1 := .empty
  cleaned : Bool := false
  /-- the messages that it was looked up for, with whether it was cleaned up by then -/
  looked : List (ZclMessage × Bool) := []
  put : List ZclMessage := []
  returned : Option ZclMessage := none

def Waiter.new (key : ZclResponseKey) : Waiter := { key }

/-- The waiters, the calls and the messages. -/
structure State where
  responseWaiters : GoMap ZclResponseKey Nat := ∅
  channels : List Waiter := []
  calls : Nat → Option Call := fun _ => none
  /-- the goroutines in `notifyResponseWaiter`, each with the channel it found -/
  notifiers : Nat → Option (Nat × ZclMessage) := fun _ => none

/-- What can happen to a call. -/
inductive Event where
  | sent (err : Option String)
  | receive
  | timeout
  | cancelled (err : String)
  | cleanup

/-- One step of the system. -/
inductive Action where
  | call (t : Nat) (key : ZclResponseKey)
  | event (t : Nat) (e : Event)
  | notify (u : Nat) (msg : Option ZclMessage)
  | offer (u : Nat)

def State.become (s : State) (t : Nat) (c : Option Call) : State :=
  { s with calls := Function.update s.calls t c }

def State.touch (s : State) (w : Nat) (f : Waiter → Waiter) : State :=
  { s with channels := s.channels.modify w f }

/-- `registerResponseWaiter` for thread `t`; when there is a waiter the call returns. -/
def State.register (s : State) (t : Nat) (key : ZclResponseKey) : State :=
  match s.responseWaiters.lookup key with
  | some _ => s
  | none =>
    { s with
      responseWaiters := s.responseWaiters.insert key s.channels.length
      channels := s.channels ++ [Waiter.new key] }.become t (some { key, channel := s.channels.length })

def State.cleanup (s : State) (t : Nat) (c : Call) (result : Except AwaitError ZclMessage) :
    State :=
  ({ s with
    responseWaiters :=
      if s.responseWaiters.lookup c.key = some c.channel then s.responseWaiters.erase c.key
      else s.responseWaiters }.become t none).touch c.channel fun x =>
    { x with cleaned := true, returned := result.toOption }

def State.perform (s : State) (t : Nat) (c : Call) : Pc → Event → State
  | .send, .sent none => s.become t (some { c with pc := .select })
  | .send, .sent (some err) =>
    s.become t (some { c with pc := .cleanup (.error (.send c.key.srcNwk err)) })
  | .select, .receive =>
    match s.channels[c.channel]?.bind fun x => x.chan.receive with
    | none => s
    | some (m, chan) =>
      (s.become t (some { c with pc := .cleanup (.ok m) })).touch c.channel ({ · with chan })
  | .select, .timeout => s.become t (some { c with pc := .cleanup (.error (.timeout c.key)) })
  | .select, .cancelled err =>
    s.become t (some { c with pc := .cleanup (.error (.context err)) })
  | .cleanup result, .cleanup => s.cleanup t c result
  | _, _ => s

def State.notify (s : State) (u : Nat) (m : ZclMessage) : State :=
  match m.key?.bind s.responseWaiters.lookup with
  | none => s
  | some w =>
    { s with notifiers := Function.update s.notifiers u (some (w, m)) }.touch w fun x =>
      { x with looked := (m, x.cleaned) :: x.looked }

/-- The `select` of `notifyResponseWaiter`: a message that finds the channel full is
dropped. -/
def Waiter.offer (x : Waiter) (m : ZclMessage) : Waiter :=
  if h : x.chan.HasRoom then { x with chan := x.chan.push m h, put := x.put ++ [m] } else x

/-- One step of a call or a message. -/
def step (s : State) : Action → State
  | .call t key =>
    match s.calls t with
    | none => s.register t key
    | some _ => s
  | .event t e => ((s.calls t).map fun c => s.perform t c c.pc e).getD s
  | .notify u msg =>
    match s.notifiers u, msg with
    | none, some m => s.notify u m
    | _, _ => s
  | .offer u =>
    match s.notifiers u with
    | none => s
    | some (w, m) =>
      { s with notifiers := Function.update s.notifiers u none }.touch w fun x => x.offer m

/-! ## The invariant -/

/-- Only messages looked up for the channel before its clean-up are put on it; the first is
returned. -/
structure Waiter.Good (x : Waiter) : Prop where
  put : ∀ m ∈ x.put, (m, false) ∈ x.looked
  looked : ∀ y ∈ x.looked, y.1.key? = some x.key ∧ y.2 = false
  returned : ∀ m ∈ x.returned, x.put.head? = some m

/-- What a call has taken from its channel: nothing, or the first message. -/
def Took (x : Waiter) : Pc → Prop
  | .send | .select => x.put = x.chan.buffer
  | .cleanup (.ok m) => x.put.head? = some m
  | .cleanup (.error _) => True

/-- Waiters are good, and each is owned by its call. -/
structure Inv (s : State) : Prop where
  good : ∀ x ∈ s.channels, x.Good
  waiting : ∀ key w, s.responseWaiters.lookup key = some w →
    ∃ x, s.channels[w]? = some x ∧ x.key = key ∧ x.cleaned = false
  owned : ∀ t c, s.calls t = some c → s.responseWaiters.lookup c.key = some c.channel
  distinct : ∀ t u c d, s.calls t = some c → s.calls u = some d → c.channel = d.channel → t = u
  took : ∀ t c, s.calls t = some c → ∀ x, s.channels[c.channel]? = some x → Took x c.pc
  found : ∀ u w m, s.notifiers u = some (w, m) →
    ∃ x, s.channels[w]? = some x ∧ (m, false) ∈ x.looked

variable {s : State}

theorem inv_init : Inv {} := by
  constructor <;> simp

namespace Inv

variable (h : Inv s)
include h

theorem thread_eq {t u : Nat} {c d : Call} (hc : s.calls t = some c) (hd : s.calls u = some d)
    (hkey : c.key = d.key) : t = u := by
  refine h.distinct t u c d hc hd (Option.some.inj ?_)
  rw [← h.owned t c hc, ← h.owned u d hd, hkey]

theorem touch {w : Nat} {f : Waiter → Waiter} (hkey : ∀ x, (f x).key = x.key)
    (hgood : ∀ x, s.channels[w]? = some x → (f x).Good) (hlooked : ∀ x, x.looked ⊆ (f x).looked)
    (hclean : ∀ key, s.responseWaiters.lookup key = some w → ∀ x, (f x).cleaned = x.cleaned)
    (htook : ∀ t c, s.calls t = some c → c.channel = w → ∀ x, s.channels[w]? = some x →
      Took x c.pc → Took (f x) c.pc) : Inv (s.touch w f) := by
  obtain ⟨good, waiting, owned, distinct, took, found⟩ := h
  constructor
  all_goals simp only [State.touch, List.mem_iff_getElem?, List.getElem?_modify,
    Option.map_eq_map, Option.map_eq_some_iff]
  · grind [List.mem_of_getElem?]
  · grind
  · exact owned
  · exact distinct
  · grind
  · intro u v m hu
    obtain ⟨x, hx, hm⟩ := found u v m hu
    refine ⟨_, ⟨x, hx, rfl⟩, List.mem_iff_getElem?.mp ?_⟩
    split
    · exact hlooked x hm
    · exact hm

theorem register (t : Nat) (key : ZclResponseKey) : Inv (s.register t key) := by
  unfold State.register
  split
  · exact h
  · obtain ⟨good, waiting, owned, distinct, took, found⟩ := h
    have hlt : ∀ {w : Nat} {x : Waiter}, s.channels[w]? = some x → w < s.channels.length :=
      fun hx => (List.getElem?_eq_some_iff.mp hx).1
    have hnew : (Waiter.new key).Good ∧ (Waiter.new key).key = key ∧
        (Waiter.new key).cleaned = false ∧ Took (Waiter.new key) .send :=
      ⟨⟨nofun, nofun, nofun⟩, rfl, rfl, rfl⟩
    have hlast : (s.channels ++ [Waiter.new key])[s.channels.length]? = some (Waiter.new key) :=
      List.getElem?_concat_length
    constructor
    all_goals simp only [State.become, Function.update_apply, GoMap.lookup_insert_eq]
    all_goals grind

section Calls

variable {t : Nat} {c : Call} (hc : s.calls t = some c)
include hc

theorem become (pc : Pc) (htook : ∀ x, s.channels[c.channel]? = some x → Took x pc) :
    Inv (s.become t (some { c with pc })) := by
  obtain ⟨good, waiting, owned, distinct, took, found⟩ := h
  constructor
  all_goals simp only [State.become, Function.update_apply]
  all_goals grind

theorem receive {x : Waiter} {m : ZclMessage} {chan : Chan ZclMessage 1} (hpc : c.pc = .select)
    (hx : s.channels[c.channel]? = some x) (hreceive : x.chan.receive = some (m, chan)) :
    Inv ((s.become t (some { c with pc := .cleanup (.ok m) })).touch c.channel
      ({ · with chan })) := by
  have htook := h.took t c hc x hx
  rw [hpc] at htook
  have hfirst : x.put.head? = some m := by
    rw [show x.put = x.chan.buffer from htook, Chan.receive_eq_some hreceive]
    rfl
  have hgo := h.become hc (.cleanup (.ok m)) fun y hy => by
    cases hx.symm.trans hy
    exact hfirst
  refine hgo.touch (fun _ => rfl) (fun y hy => ?_) (fun _ => List.Subset.refl _)
    (fun _ _ _ => rfl) ?_
  · have hgood := h.good y (List.mem_of_getElem? hy)
    exact ⟨hgood.put, hgood.looked, hgood.returned⟩
  · -- the call is the only one with this channel
    have hdistinct := h.distinct
    simp only [State.become, Function.update_apply]
    grind [Took]

theorem cleanup {result : Except AwaitError ZclMessage} (hpc : c.pc = .cleanup result) :
    Inv (s.cleanup t c result) := by
  have hkeys := @Inv.thread_eq s h
  obtain ⟨good, waiting, owned, distinct, took, found⟩ := h
  unfold State.cleanup
  rw [if_pos (owned t c hc)]
  have hgone : Inv ({ s with responseWaiters := s.responseWaiters.erase c.key }.become t none) := by
    constructor
    all_goals simp only [State.become, Function.update_apply, GoMap.lookup_erase_eq]
    all_goals grind
  refine hgone.touch (fun _ => rfl) (fun x hx => ?_) (fun _ => List.Subset.refl _) ?_ ?_
  · have hgood := good x (List.mem_of_getElem? hx)
    have htook := took t c hc x hx
    rw [hpc] at htook
    refine ⟨hgood.put, hgood.looked, fun m hm => ?_⟩
    cases result with
    | error => cases hm
    | ok =>
      cases hm
      exact htook
  · -- the channel is registered under no other key
    simp only [State.become, GoMap.lookup_erase_eq]
    grind
  · simp only [State.become, Function.update_apply]
    grind

theorem perform (e : Event) : Inv (s.perform t c c.pc e) := by
  have htook := h.took t c hc
  unfold State.perform
  split
  · rename_i hpc
    rw [hpc] at htook
    exact h.become hc _ htook
  · exact h.become hc _ fun _ _ => trivial
  · rename_i hpc
    split
    · exact h
    · obtain ⟨x, hx, hreceive⟩ := Option.bind_eq_some_iff.mp ‹_ = some _›
      exact h.receive hc hpc hx hreceive
  · exact h.become hc _ fun _ _ => trivial
  · exact h.become hc _ fun _ _ => trivial
  · exact h.cleanup hc ‹_›
  · exact h

end Calls

theorem notifier {u : Nat} {found : Option (Nat × ZclMessage)}
    (hfound : ∀ w m, found = some (w, m) → ∃ x, s.channels[w]? = some x ∧ (m, false) ∈ x.looked) :
    Inv { s with notifiers := Function.update s.notifiers u found } := by
  have hold := h.found
  refine ⟨h.good, h.waiting, h.owned, h.distinct, h.took, ?_⟩
  simp only [Function.update_apply]
  grind

theorem notify (u : Nat) (m : ZclMessage) : Inv (s.notify u m) := by
  unfold State.notify
  split
  · exact h
  · rename_i w hw
    obtain ⟨key, hkey, hlookup⟩ := Option.bind_eq_some_iff.mp hw
    obtain ⟨x, hx, rfl, hcleaned⟩ := h.waiting key w hlookup
    have hlooks : Inv (s.touch w fun x => { x with looked := (m, x.cleaned) :: x.looked }) := by
      refine h.touch (fun _ => rfl) (fun y hy => ?_) (fun _ => List.subset_cons_self _ _)
        (fun _ _ _ => rfl) (fun _ _ _ _ _ _ hty => by unfold Took at hty ⊢; exact hty)
      cases hx.symm.trans hy
      have hgood := h.good x (List.mem_of_getElem? hx)
      exact ⟨fun m' hm' => List.mem_cons_of_mem _ (hgood.put m' hm'),
        List.forall_mem_cons.mpr ⟨⟨hkey, hcleaned⟩, hgood.looked⟩, hgood.returned⟩
    refine hlooks.notifier fun w' m' hm => ?_
    cases hm
    refine ⟨{ x with looked := (m, x.cleaned) :: x.looked }, ?_, ?_⟩
    · simp [State.touch, hx]
    · rw [hcleaned]
      exact List.mem_cons_self

theorem offer {u w : Nat} {m : ZclMessage} (hu : s.notifiers u = some (w, m)) :
    Inv (({ s with notifiers := Function.update s.notifiers u none } : State).touch w
      fun x => x.offer m) := by
  obtain ⟨x, hx, hlooked⟩ := h.found u w m hu
  refine (@Inv.notifier s h u none nofun).touch ?_ (fun y hy => ?_) ?_ ?_ ?_
  · grind [Waiter.offer]
  · cases hx.symm.trans hy
    have hgood := h.good x (List.mem_of_getElem? hx)
    unfold Waiter.offer
    split
    · refine ⟨?_, hgood.looked, fun m' hm' => ?_⟩
      · exact List.forall_mem_append.mpr ⟨hgood.put, List.forall_mem_singleton.mpr hlooked⟩
      · rw [List.head?_append, hgood.returned m' hm']
        rfl
    · exact hgood
  · grind [Waiter.offer]
  · grind [Waiter.offer]
  · intro t c _ _ y _ hty
    unfold Waiter.offer Took at *
    grind [Chan.buffer_push]

end Inv

theorem inv_step (s : State) (a : Action) (h : Inv s) : Inv (step s a) := by
  cases a with
  | call t key =>
    show Inv (match s.calls t with | none => s.register t key | some _ => s)
    split
    · exact h.register t key
    · exact h
  | event t e =>
    rw [step]
    cases hc : s.calls t with
    | none => exact h
    | some c => exact h.perform hc e
  | notify u msg =>
    show Inv (match s.notifiers u, msg with | none, some m => s.notify u m | _, _ => s)
    split
    · exact h.notify u _
    · exact h
  | offer u =>
    rw [step]
    cases hu : s.notifiers u with
    | none => exact h
    | some found => exact h.offer hu

theorem calls_event {t u : Nat} (hne : u ≠ t) (e : Event) :
    (step s (.event t e)).calls u = s.calls u := by
  rw [step]
  cases s.calls t with
  | none => rfl
  | some c =>
    show (s.perform t c c.pc e).calls u = _
    unfold State.perform
    repeat' split
    all_goals first | rfl | exact Function.update_of_ne hne _ _

/-- However calls and messages interleave: a call returns the first message put on its
channel; a message is put only on a channel registered for its key, for which it was looked
up before the clean-up; a clean-up leaves other calls' waiters, an offer ends, and no two
calls share a key. -/
theorem response_tap (actions : List Action) :
    let s := run step {} actions
    (∀ x ∈ s.channels, ∀ m, x.returned = some m → x.put.head? = some m) ∧
    (∀ x ∈ s.channels, ∀ m ∈ x.put, m.key? = some x.key ∧ (m, false) ∈ x.looked) ∧
    (∀ t u d, u ≠ t → s.calls u = some d →
      (step s (.event t .cleanup)).responseWaiters.lookup d.key = some d.channel) ∧
    (∀ u, (step s (.offer u)).notifiers u = none) ∧
    (∀ t u c d, s.calls t = some c → s.calls u = some d → c.key = d.key → t = u) := by
  intro s
  have h : Inv s := run_invariant inv_step inv_init actions
  refine ⟨?_, ?_, ?_, ?_, fun t u c d hc hd hkey => h.thread_eq hc hd hkey⟩
  · intro x hx m hm
    exact (h.good x hx).returned m hm
  · intro x hx m hm
    have hlooked := (h.good x hx).put m hm
    exact ⟨((h.good x hx).looked _ hlooked).1, hlooked⟩
  · intro t u d hne hd
    exact (inv_step s (.event t .cleanup) h).owned u d ((calls_event hne _).trans hd)
  · intro u
    rw [step]
    cases hu : s.notifiers u with
    | none => exact hu
    | some found => exact Function.update_self _ _ _

end IotController.ZigbeeCoordinator.ZclResponse
