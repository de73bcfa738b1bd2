/-
  Scanners that are fed a stream piece by piece.

  A scanner looks at the buffer again and again.  At each turn it either waits for more
  data, with what it keeps of the buffer, or takes something from the front, with what it
  puts out.  Data that has not arrived yet must not change what it does: a turn that goes on
  goes on in the same way when more follows, and what is kept behaves like what was there.
-/
import Mathlib.Tactic

namespace IotController.Foundation

universe u v

/-- What one look at the buffer gives. -/
inductive Turn (α : Type u) (β : Type v) where
  | wait (kept : List α)
  | goOn (out : List β) (rest : List α)

/-- A scanner that is not misled by data that has not arrived yet. -/
structure Scanner (α : Type u) (β : Type v) where
  turn : List α → Turn α β
  shrinks : ∀ {buffer out rest}, turn buffer = .goOn out rest → rest.length < buffer.length
  goOn_append : ∀ {buffer out rest}, turn buffer = .goOn out rest →
    ∀ more, turn (buffer ++ more) = .goOn out (rest ++ more)
  wait_append : ∀ {buffer kept}, turn buffer = .wait kept →
    ∀ more, turn (kept ++ more) = turn (buffer ++ more)
  turn_nil : turn [] = .wait []

namespace Scanner

variable {α : Type u} {β : Type v} (s : Scanner α β)

/-- Turn after turn until the scanner waits: what it puts out, and what it keeps. -/
def drain (buffer : List α) : List β × List α :=
  match _h : s.turn buffer with
  | .wait kept => ([], kept)
  | .goOn out rest => (out ++ (drain rest).1, (drain rest).2)
termination_by buffer.length
decreasing_by all_goals exact s.shrinks _h

theorem drain_wait {buffer kept : List α} (h : s.turn buffer = .wait kept) :
    s.drain buffer = ([], kept) := by
  rw [drain]
  split
  · next kept' h' =>
      rw [h] at h'
      cases h'
      rfl
  · next out rest h' =>
      rw [h] at h'
      cases h'

theorem drain_goOn {buffer rest : List α} {out : List β} (h : s.turn buffer = .goOn out rest) :
    s.drain buffer = (out ++ (s.drain rest).1, (s.drain rest).2) := by
  rw [drain]
  split
  · next kept h' =>
      rw [h] at h'
      cases h'
  · next out' rest' h' =>
      rw [h] at h'
      cases h'
      rfl

theorem drain_congr {first second : List α} (h : s.turn first = s.turn second) :
    s.drain first = s.drain second := by
  cases hturn : s.turn second with
  | wait => rw [s.drain_wait hturn, s.drain_wait (h.trans hturn)]
  | goOn => rw [s.drain_goOn hturn, s.drain_goOn (h.trans hturn)]

/-- More data is added to the buffer, which is scanned again. -/
def feed (state : List β × List α) (chunk : List α) : List β × List α :=
  (state.1 ++ (s.drain (state.2 ++ chunk)).1, (s.drain (state.2 ++ chunk)).2)

theorem feed_drain (buffer chunk : List α) :
    s.feed (s.drain buffer) chunk = s.drain (buffer ++ chunk) := by
  induction hlength : buffer.length using Nat.strongRecOn generalizing buffer with
  | ind _ ih =>
    cases hturn : s.turn buffer with
    | wait =>
      rw [s.drain_wait hturn, feed, List.nil_append, s.drain_congr (s.wait_append hturn chunk)]
    | goOn _ rest =>
      have hrest : s.feed (s.drain rest) chunk = s.drain (rest ++ chunk) :=
        ih rest.length (hlength ▸ s.shrinks hturn) rest rfl
      rw [s.drain_goOn hturn, s.drain_goOn (s.goOn_append hturn chunk), ← hrest]
      simp [feed]

/-- **Cuts do not matter.**  A reader gets from the pieces what the scanner gets from the whole
stream. -/
theorem foldl_eq_drain {read : List β × List α → List α → List β × List α}
    (h : ∀ buffer chunk, read (s.drain buffer) chunk = s.feed (s.drain buffer) chunk)
    (buffer : List α) (chunks : List (List α)) :
    chunks.foldl read (s.drain buffer) = s.drain (buffer ++ chunks.flatten) := by
  induction chunks generalizing buffer with
  | nil => simp
  | cons _ _ ih =>
    rw [List.foldl_cons, h, s.feed_drain, ih, List.append_assoc, List.flatten_cons]

end Scanner

end IotController.Foundation
