/-
  Buffered channels.

  A channel of capacity `n` holds at most `n` values that were sent and not yet
  received, in the order in which they were sent.  A sender that does not wait drops
  its value when the buffer is full (`trySend`); one that waits goes on when there is
  room (`send`).
-/
import Mathlib.Tactic

namespace IotController.Foundation

universe u

/-- A buffered channel. -/
@[ext] structure Chan (α : Type u) (capacity : Nat) where
  buffer : List α
  bounded : buffer.length ≤ capacity

namespace Chan

variable {α : Type u} {capacity : Nat}

def empty : Chan α capacity := ⟨[], Nat.zero_le _⟩

/-- A send does not wait. -/
def HasRoom (c : Chan α capacity) : Prop := c.buffer.length < capacity

instance (c : Chan α capacity) : Decidable c.HasRoom :=
  inferInstanceAs (Decidable (c.buffer.length < capacity))

def push (c : Chan α capacity) (a : α) (h : c.HasRoom) : Chan α capacity :=
  ⟨c.buffer ++ [a], by
    rw [List.length_append, List.length_singleton]
    exact h⟩

/-- A send that waits: nothing happens while the buffer is full. -/
def send (c : Chan α capacity) (a : α) : Option (Chan α capacity) :=
  if h : c.HasRoom then some (c.push a h) else none

def trySend (c : Chan α capacity) (a : α) : Chan α capacity :=
  if h : c.HasRoom then c.push a h else c

def receive (c : Chan α capacity) : Option (α × Chan α capacity) :=
  match h : c.buffer with
  | [] => none
  | a :: rest => some (a, ⟨rest, by
      have hbounded := c.bounded
      rw [h, List.length_cons] at hbounded
      omega⟩)

@[simp] theorem buffer_empty : (empty : Chan α capacity).buffer = [] := rfl

@[simp] theorem buffer_push (c : Chan α capacity) (a : α) (h : c.HasRoom) :
    (c.push a h).buffer = c.buffer ++ [a] := rfl

theorem mem_buffer_trySend {c : Chan α capacity} {a b : α} (h : b ∈ (c.trySend a).buffer) :
    b ∈ c.buffer ∨ b = a := by
  unfold trySend at h
  split at h
  · simpa using h
  · exact Or.inl h

theorem send_eq_some {c c' : Chan α capacity} {a : α} (h : c.send a = some c') :
    c.HasRoom ∧ c'.buffer = c.buffer ++ [a] := by
  unfold send at h
  split at h
  · rename_i hroom
    cases h
    exact ⟨hroom, rfl⟩
  · cases h

theorem receive_eq_some {c c' : Chan α capacity} {a : α} (h : c.receive = some (a, c')) :
    c.buffer = a :: c'.buffer := by
  unfold receive at h
  split at h
  · cases h
  · rename_i b rest hbuffer
    cases h
    exact hbuffer

theorem receive_eq_none {c : Chan α capacity} (h : c.receive = none) : c.buffer = [] := by
  unfold receive at h
  split at h
  · assumption
  · cases h

end Chan

end IotController.Foundation
