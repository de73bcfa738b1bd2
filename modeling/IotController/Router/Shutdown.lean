/-
  The queue of the router and its end
  (`Send`, `running` and `stopping` in `modules/router/router.go`).

  `Send` answers before its goroutine has put the message into `itemCh`.  The loop hands
  messages to at most `ReportConcurrency` goroutines at a time, leaves when its context is
  cancelled, and `stopping` closes the channel.  A goroutine that then sends on it brings
  the process down.
-/
import IotController.Foundation.Bytes
import IotController.Foundation.Channel
import IotController.Foundation.Run

namespace IotController.Router

open Foundation

/-- `item`, with the number of its `Send`. -/
structure Item where
  number : Nat
  path : String
  payload : List Byte
  deriving DecidableEq

/-- Where `running` stands. -/
inductive Loop where
  | select
  | add (i : Item)
  | wait
  | returned
  | closed
  deriving DecidableEq

/-- The queue and the goroutines around it. -/
structure State where
  itemCh : Chan Item 100 := .empty
  loop : Loop := .select
  cancelled : Bool := false
  /-- the goroutines of `Send` that have not got through -/
  senders : List Item := []
  receivers : List Item := []
  handled : List Item := []
  sends : Nat := 0
  /-- what was answered before the context was cancelled -/
  acknowledged : List Item := []
  panicked : Bool := false

/-- A step of one goroutine. -/
inductive Action where
  | send (path : String) (payload : List Byte)
  | enqueue (i : Item)
  | receive
  | spawn
  | finish (i : Item)
  | cancel
  | leave
  | drained
  | close

def State.send (s : State) (path : String) (payload : List Byte) : State :=
  let i : Item := ⟨s.sends, path, payload⟩
  { s with
    sends := s.sends + 1
    senders := i :: s.senders
    acknowledged := if s.cancelled then s.acknowledged else i :: s.acknowledged }

/-- `r.itemCh <- &item`: it waits while the buffer is full, and panics when the channel is
closed. -/
def State.enqueue (s : State) (i : Item) : State :=
  if i ∈ s.senders then
    if s.loop = .closed then { s with panicked := true }
    else match s.itemCh.send i with
      | none => s
      | some itemCh => { s with itemCh, senders := s.senders.erase i }
  else s

/-- One step of a process that has not panicked; `limit` is `ReportConcurrency`. -/
def State.act (limit : Nat) (s : State) : Action → State
  | .send path payload => s.send path payload
  | .enqueue i => s.enqueue i
  | .receive =>
    match s.loop, s.itemCh.receive with
    | .select, some (i, itemCh) => { s with itemCh, loop := .add i }
    | _, _ => s
  | .spawn =>
    match s.loop with
    | .add i =>
      if s.receivers.length < limit then { s with loop := .select, receivers := i :: s.receivers }
      else s
    | _ => s
  | .finish i =>
    if i ∈ s.receivers then { s with receivers := s.receivers.erase i, handled := i :: s.handled }
    else s
  | .cancel => { s with cancelled := true }
  | .leave => if s.loop = .select ∧ s.cancelled then { s with loop := .wait } else s
  | .drained => if s.loop = .wait ∧ s.receivers = [] then { s with loop := .returned } else s
  | .close => if s.loop = .returned then { s with loop := .closed } else s

def step (limit : Nat) (s : State) (a : Action) : State :=
  if s.panicked then s else s.act limit a

/-! ## Where a message is -/

/-- No panic; acknowledged messages are on their way, none in `running` once its loop has
returned, none in a `Send` once the channel is closed. -/
structure Sound (s : State) : Prop where
  calm : s.panicked = false
  kept : ∀ i ∈ s.acknowledged, i ∈ s.senders ∨ i ∈ s.itemCh.buffer ∨ s.loop = .add i ∨
    i ∈ s.receivers ∨ i ∈ s.handled
  drained : s.loop = .returned ∨ s.loop = .closed → s.receivers = []
  closed : s.loop = .closed → s.senders = []

/-- A channel is closed when no goroutine of a `Send` is left, and `Send` is not called
afterwards. -/
def Orderly (s : State) : Action → Prop
  | .send _ _ => s.loop ≠ .closed
  | .close => s.loop = .returned → s.senders = []
  | _ => True

/-- No `Send` panics next, and once the channel is closed what was acknowledged before the
shutdown is handled or queued. -/
def Safe (limit : Nat) (s : State) : Prop :=
  (∀ items : List Item, (run (step limit) s (items.map .enqueue)).panicked = false) ∧
    (s.loop = .closed → ∀ i ∈ s.acknowledged, i ∈ s.handled ∨ i ∈ s.itemCh.buffer)

variable {limit : Nat} {s : State}

theorem sound_init : Sound {} := by
  constructor <;> simp

theorem step_of_sound (h : Sound s) (a : Action) : step limit s a = s.act limit a := by
  simp [step, h.calm]

namespace Sound

theorem enqueue (h : Sound s) (i : Item) : Sound (s.enqueue i) := by
  unfold State.enqueue
  split
  · split
    · grind [h.closed]
    · split
      · exact h
      · obtain ⟨-, hbuffer⟩ := Chan.send_eq_some ‹_›
        constructor <;> grind [h.calm, h.kept, h.drained]
  · exact h

theorem receive (h : Sound s) : Sound (s.act limit .receive) := by
  dsimp only [State.act]
  split
  · have hbuffer := Chan.receive_eq_some ‹_›
    constructor <;> grind [h.calm, h.kept]
  · exact h

theorem act (h : Sound s) {a : Action} (ha : Orderly s a) : Sound (s.act limit a) := by
  obtain ⟨hcalm, hkept, hdrained, hclosed⟩ := id h
  cases a with
  | send path payload => constructor <;> grind [State.act, State.send, Orderly]
  | enqueue i => exact h.enqueue i
  | receive => exact h.receive
  | spawn => constructor <;> grind [State.act]
  | finish i => constructor <;> grind [State.act]
  | cancel => exact ⟨hcalm, hkept, hdrained, hclosed⟩
  | leave => constructor <;> grind [State.act]
  | drained => constructor <;> grind [State.act]
  | close => constructor <;> grind [State.act, Orderly]

theorem step (h : Sound s) {a : Action} (ha : Orderly s a) : Sound (step limit s a) := by
  rw [step_of_sound h]
  exact h.act ha

theorem safe (h : Sound s) : Safe limit s := by
  constructor
  · intro items
    have hrun : Sound (run (Router.step limit) s (items.map .enqueue)) := by
      refine run_invariant_of_mem (fun t a ha ht => ht.step ?_) h
      obtain ⟨i, -, rfl⟩ := List.mem_map.mp ha
      trivial
    exact hrun.calm
  · obtain ⟨-, hkept, hdrained, hclosed⟩ := h
    grind

end Sound

theorem not_safe_of_sender {i : Item} (hcalm : s.panicked = false) (hclosed : s.loop = .closed)
    (hi : i ∈ s.senders) : ¬ Safe limit s := by
  rintro ⟨hcontinues, -⟩
  have hpanics := hcontinues [i]
  simp [step, State.act, State.enqueue, hcalm, hclosed, hi] at hpanics

/-- **Shutdown.**  All along a run no `Send` can come to send on the closed channel, and what
was acknowledged before the shutdown is handled or queued at the close, exactly if the channel
is closed when every `Send` is through and none is called afterwards. -/
theorem shutdown_safe_iff (limit : Nat) (actions : List Action) :
    (∀ n, Safe limit (run (step limit) {} (actions.take n))) ↔
      Along (step limit) Orderly {} actions := by
  refine property_iff_along (fun s h => h.safe) (fun s a _ h => ⟨fun hsafe => ?_, fun ha => ?_⟩)
    (fun s a _ h ha => h.step ha) sound_init
  · rw [step_of_sound h] at hsafe
    cases a with
    | send path payload =>
      intro hclosed
      exact not_safe_of_sender (s := s.send path payload) h.calm hclosed List.mem_cons_self hsafe
    | close =>
      intro hreturned
      by_contra hne
      obtain ⟨i, hi⟩ := List.exists_mem_of_ne_nil _ hne
      simp only [State.act, hreturned, if_true] at hsafe
      exact not_safe_of_sender (s := { s with loop := .closed }) h.calm rfl hi hsafe
    | enqueue | receive | spawn | finish | cancel | leave | drained => trivial
  · exact (h.step ha).safe

def lateSender : List Action :=
  [.send "zigbee/00158d0001" [], .cancel, .leave, .drained, .close,
    .enqueue ⟨0, "zigbee/00158d0001", []⟩]

theorem lateSender_panics :
    (run (step 100) {} lateSender).panicked = true ∧
      (run (step 100) {} lateSender).acknowledged = [⟨0, "zigbee/00158d0001", []⟩] ∧
      (run (step 100) {} lateSender).handled = [] := by
  decide

end IotController.Router
