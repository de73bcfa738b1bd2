/-
  A sliding window over a line that loses frames.

  A sender numbers its frames 0, 1, 2, ... and has at most `k` of them unacknowledged.  It
  may send an unacknowledged frame again at any time.  The line keeps the order of what is
  sent and may lose any part of it, in both directions.  The receiver takes the frame that
  it expects, passes over every other, and answers with the frame that it expects next.

  On the wire a frame carries its number modulo `m` only.
-/
import IotController.Foundation.Run

namespace IotController.Foundation.SlidingWindow

/-- Both ends of a link, frames counted without wrapping. -/
structure Link where
  sent : Nat := 0
  acked : Nat := 0
  expected : Nat := 0
  wire : List Nat := []
  acks : List Nat := []
  answers : List Nat := []
  deriving DecidableEq

/-- A step of either end, or of the line. -/
inductive Move where
  | send
  | resend (i : Nat)
  | lose (j : Nat)
  | deliver
  | loseAck (j : Nat)
  | takeAck
  | idle
  deriving DecidableEq

def after (expected i : Nat) : Nat := if i = expected then expected + 1 else expected

def Link.step (k : Nat) (l : Link) : Move → Link
  | .send =>
    if l.sent < l.acked + k then
      { l with sent := l.sent + 1, wire := l.wire ++ [l.sent] }
    else l
  | .resend i =>
    if l.acked ≤ i ∧ i < l.sent then { l with wire := l.wire ++ [i] } else l
  | .lose j => { l with wire := l.wire.eraseIdx j }
  | .deliver =>
    match l.wire with
    | [] => l
    | i :: rest =>
      { l with
        expected := after l.expected i
        wire := rest
        acks := l.acks ++ [after l.expected i]
        answers := l.answers ++ [after l.expected i] }
  | .loseAck j => { l with acks := l.acks.eraseIdx j }
  | .takeAck =>
    match l.acks with
    | [] => l
    | a :: rest => { l with acked := a, acks := rest }
  | .idle => l

variable {k : Nat} {l : Link}

theorem Link.step_expected_of_quiet {move : Move} (h : move = .deliver → l.wire = []) :
    (l.step k move).expected = l.expected := by
  cases move with
  | send | resend | takeAck =>
    rw [Link.step]
    split <;> rfl
  | deliver => simp only [Link.step, h rfl]
  | lose j | loseAck j | idle => rfl

/-- A frame on the line is never a window older than one put there before it or than what was
received. -/
structure Inv (k : Nat) (l : Link) : Prop where
  acked_le : l.acked ≤ l.expected
  expected_le : l.expected ≤ l.sent
  window : l.sent ≤ l.acked + k
  wire_lt : ∀ i ∈ l.wire, i < l.sent
  wire_recent : ∀ i ∈ l.wire, l.expected ≤ i + k
  wire_order : l.wire.Pairwise fun j i => j < i + k
  acks_order : l.acks.Pairwise (· ≤ ·)
  acks_mem : ∀ a ∈ l.acks, l.acked ≤ a ∧ a ≤ l.expected

theorem inv_start (k : Nat) : Inv k {} where
  acked_le := Nat.le_refl _
  expected_le := Nat.le_refl _
  window := Nat.zero_le _
  wire_lt := by simp
  wire_recent := by simp
  wire_order := List.Pairwise.nil
  acks_order := List.Pairwise.nil
  acks_mem := by simp

theorem le_after (expected i : Nat) : expected ≤ after expected i := by
  unfold after
  split <;> omega

theorem after_le {expected i bound : Nat} (hexpected : expected ≤ bound) (hi : i < bound) :
    after expected i ≤ bound := by
  unfold after
  split <;> omega

theorem Inv.push (h : Inv k l) {i : Nat} (hacked : l.acked ≤ i) (hsent : i < l.sent) :
    Inv k { l with wire := l.wire ++ [i] } where
  acked_le := h.acked_le
  expected_le := h.expected_le
  window := h.window
  wire_lt := by
    intro j hj
    rcases List.mem_append.mp hj with hj | hj
    · exact h.wire_lt j hj
    · rw [List.mem_singleton.mp hj]
      exact hsent
  wire_recent := by
    intro j hj
    rcases List.mem_append.mp hj with hj | hj
    · exact h.wire_recent j hj
    · have hexpected := h.expected_le
      have hwindow := h.window
      rw [List.mem_singleton.mp hj]
      show l.expected ≤ i + k
      omega
  wire_order := by
    refine List.pairwise_append.mpr ⟨h.wire_order, List.pairwise_singleton _ _, ?_⟩
    intro j hj i' hi'
    have hlt := h.wire_lt j hj
    have hwindow := h.window
    rw [List.mem_singleton.mp hi']
    omega
  acks_order := h.acks_order
  acks_mem := h.acks_mem

theorem Inv.advance (h : Inv k l) (hroom : l.sent < l.acked + k) :
    Inv k { l with sent := l.sent + 1 } where
  acked_le := h.acked_le
  expected_le := Nat.le_succ_of_le h.expected_le
  window := hroom
  wire_lt i hi := Nat.lt_succ_of_lt (h.wire_lt i hi)
  wire_recent := h.wire_recent
  wire_order := h.wire_order
  acks_order := h.acks_order
  acks_mem := h.acks_mem

theorem Inv.deliver (h : Inv k l) {i : Nat} {rest : List Nat} (hwire : l.wire = i :: rest) :
    Inv k { l with
      expected := after l.expected i
      wire := rest
      acks := l.acks ++ [after l.expected i]
      answers := l.answers ++ [after l.expected i] } := by
  have hmem : ∀ j ∈ rest, j ∈ l.wire := fun j hj => hwire ▸ List.mem_cons_of_mem i hj
  have hi : i < l.sent := h.wire_lt i (hwire ▸ List.mem_cons_self)
  have horder := h.wire_order
  rw [hwire, List.pairwise_cons] at horder
  have hle := le_after l.expected i
  constructor
  case acked_le => exact h.acked_le.trans hle
  case expected_le => exact after_le h.expected_le hi
  case window => exact h.window
  case wire_lt => exact fun j hj => h.wire_lt j (hmem j hj)
  case wire_recent =>
    -- the line keeps the order: a later frame is not a whole window older than this one
    intro j hj
    exact after_le (h.wire_recent j (hmem j hj)) (horder.1 j hj)
  case wire_order => exact horder.2
  case acks_order =>
    refine List.pairwise_append.mpr ⟨h.acks_order, List.pairwise_singleton _ _, ?_⟩
    intro a ha b hb
    rw [List.mem_singleton.mp hb]
    exact (h.acks_mem a ha).2.trans hle
  case acks_mem =>
    intro a ha
    rcases List.mem_append.mp ha with ha | ha
    · exact ⟨(h.acks_mem a ha).1, (h.acks_mem a ha).2.trans hle⟩
    · rw [List.mem_singleton.mp ha]
      exact ⟨h.acked_le.trans hle, Nat.le_refl _⟩

theorem Inv.takeAck (h : Inv k l) {a : Nat} {rest : List Nat} (hacks : l.acks = a :: rest) :
    Inv k { l with acked := a, acks := rest } := by
  have ha := h.acks_mem a (hacks ▸ List.mem_cons_self)
  have horder := h.acks_order
  rw [hacks, List.pairwise_cons] at horder
  have hwindow := h.window
  constructor
  case acked_le => exact ha.2
  case expected_le => exact h.expected_le
  case window =>
    show l.sent ≤ a + k
    omega
  case wire_lt => exact h.wire_lt
  case wire_recent => exact h.wire_recent
  case wire_order => exact h.wire_order
  case acks_order => exact horder.2
  case acks_mem =>
    intro b hb
    exact ⟨horder.1 b hb, (h.acks_mem b (hacks ▸ List.mem_cons_of_mem a hb)).2⟩

theorem inv_step (h : Inv k l) (move : Move) : Inv k (l.step k move) := by
  cases move with
  | send =>
    rw [Link.step]
    split
    · rename_i hroom
      have hacked : l.acked ≤ l.sent := h.acked_le.trans h.expected_le
      exact (h.advance hroom).push hacked (Nat.lt_succ_self _)
    · exact h
  | resend =>
    rw [Link.step]
    split
    · rename_i hi
      exact h.push hi.1 hi.2
    · exact h
  | lose j =>
    have hsub := List.eraseIdx_sublist l.wire j
    exact ⟨h.acked_le, h.expected_le, h.window, fun i hi => h.wire_lt i (hsub.subset hi),
      fun i hi => h.wire_recent i (hsub.subset hi), h.wire_order.sublist hsub, h.acks_order,
      h.acks_mem⟩
  | deliver =>
    rw [Link.step]
    split
    · exact h
    · rename_i i rest hwire
      exact h.deliver hwire
  | loseAck j =>
    have hsub := List.eraseIdx_sublist l.acks j
    exact ⟨h.acked_le, h.expected_le, h.window, h.wire_lt, h.wire_recent, h.wire_order,
      h.acks_order.sublist hsub, fun a ha => h.acks_mem a (hsub.subset ha)⟩
  | takeAck =>
    rw [Link.step]
    split
    · exact h
    · rename_i a rest hacks
      exact h.takeAck hacks
  | idle => exact h

theorem eq_of_mod_eq {m i j : Nat} (hmod : i % m = j % m) (hij : i < j + m) (hji : j < i + m) :
    i = j := by
  have hi := Nat.div_add_mod i m
  have hj := Nat.div_add_mod j m
  rcases Nat.lt_trichotomy (i / m) (j / m) with hlt | heq | hlt
  · have hstep : m * (i / m) + m ≤ m * (j / m) := by
      calc m * (i / m) + m = m * (i / m + 1) := (Nat.mul_succ m _).symm
        _ ≤ m * (j / m) := Nat.mul_le_mul_left m hlt
    omega
  · rw [heq] at hi
    omega
  · have hstep : m * (j / m) + m ≤ m * (i / m) := by
      calc m * (j / m) + m = m * (j / m + 1) := (Nat.mul_succ m _).symm
        _ ≤ m * (i / m) := Nat.mul_le_mul_left m hlt
    omega

/-- **The receiver's test.**  A frame on the line has the expected number exactly when it is the
expected frame. -/
theorem Inv.number_eq_iff {m : Nat} (h : Inv k l) (hk : k < m) {i : Nat} (hi : i ∈ l.wire) :
    i % m = l.expected % m ↔ i = l.expected := by
  have hlt := h.wire_lt i hi
  have hrecent := h.wire_recent i hi
  have hacked := h.acked_le
  have hwindow := h.window
  constructor
  · intro hmod
    exact eq_of_mod_eq hmod (by omega) (by omega)
  · rintro rfl
    rfl

/-- The frame an acknowledgement number stands for: the first from `acked` on that has it. -/
def readAck (m acked number : Nat) : Nat := acked + (number + (m - acked % m)) % m

/-- **The sender's test.**  An acknowledgement's number stands for what the receiver expected. -/
theorem Inv.readAck_eq {m : Nat} (h : Inv k l) (hk : k < m) {a : Nat} (ha : a ∈ l.acks) :
    readAck m l.acked (a % m) = a := by
  have hpos : 0 < m := Nat.lt_of_le_of_lt (Nat.zero_le k) hk
  have hmod := Nat.mod_lt (l.acked) hpos
  have hlt := Nat.mod_lt (a % m + (m - l.acked % m)) hpos
  have hmem := h.acks_mem a ha
  have hexpected := h.expected_le
  have hwindow := h.window
  have hsame : readAck m l.acked (a % m) % m = a % m := by
    have hsum : l.acked % m + (a % m + (m - l.acked % m)) = a % m + m := by omega
    rw [readAck, Nat.add_mod_mod, ← Nat.mod_add_mod, hsum, Nat.add_mod_right, Nat.mod_mod]
  exact eq_of_mod_eq hsame (by unfold readAck; omega) (by unfold readAck; omega)

end IotController.Foundation.SlidingWindow
