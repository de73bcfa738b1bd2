/-
  Shift registers with feedback.

  A register of `w` bits is shifted to the left; when a bit is lost, a pattern is added to
  what is left.  Feeding a string of bits into the register computes the remainder of a
  polynomial over the field with two elements, and the register with zeros behind the string
  vanishes only if it vanished before, provided that the pattern has its lowest bit
  (`shift_injective`).

  Everything is linear in exclusive or, so what an error does to a checksum does not depend
  on the message.
-/
import Mathlib.Tactic

namespace IotController.Foundation

universe u v

theorem foldl_xor {σ : Type u} {α : Type v} [XorOp σ] [XorOp α] {step : σ → α → σ}
    (hstep : ∀ s t a b, step (s ^^^ t) (a ^^^ b) = step s a ^^^ step t b)
    {l m : List α} (hlength : l.length = m.length) (s t : σ) :
    (List.zipWith (· ^^^ ·) l m).foldl step (s ^^^ t) = l.foldl step s ^^^ m.foldl step t := by
  induction l generalizing m s t with
  | nil =>
    obtain rfl : m = [] := List.length_eq_zero_iff.mp hlength.symm
    rfl
  | cons _ _ ih =>
    cases m with
    | nil => cases hlength
    | cons =>
      rw [List.zipWith_cons_cons, List.foldl_cons, hstep]
      exact ih (Nat.succ.inj hlength) _ _

/-- The set bits lie within `n` consecutive ones. -/
def Burst (n : Nat) (bits : List Bool) : Prop :=
  ∃ start, ∀ i, bits[i]? = some true → start ≤ i ∧ i < start + n

theorem Burst.window {n : Nat} {bits : List Bool} (h : Burst n bits) :
    ∃ first window rest, bits = first ++ (window ++ rest) ∧ window.length ≤ n ∧
      true ∉ first ∧ true ∉ rest := by
  obtain ⟨start, hset⟩ := h
  refine ⟨bits.take start, (bits.drop start).take n, (bits.drop start).drop n, ?_, ?_, ?_, ?_⟩
  · rw [List.take_append_drop, List.take_append_drop]
  · exact List.length_take_le _ _
  · intro hmem
    obtain ⟨i, hi⟩ := List.mem_iff_getElem?.mp hmem
    rw [List.getElem?_take] at hi
    split at hi
    · have := (hset i hi).1
      omega
    · cases hi
  · intro hmem
    obtain ⟨i, hi⟩ := List.mem_iff_getElem?.mp hmem
    rw [List.getElem?_drop, List.getElem?_drop] at hi
    have := (hset _ hi).2
    omega

/-! ## The register -/

/-- A shift register with its polynomial. -/
structure Register (w : Nat) where
  poly : BitVec w
  odd : poly.getLsbD 0 = true

namespace Register

variable {w : Nat} (r : Register w)

def shift (c : BitVec w) : BitVec w := if c.msb then (c <<< 1) ^^^ r.poly else c <<< 1

def unshift (c : BitVec w) : BitVec w :=
  if c.getLsbD 0 then ((c ^^^ r.poly) >>> 1) ||| BitVec.intMin w else c >>> 1

theorem shift_zero : r.shift 0#w = 0#w := by
  simp [shift]

theorem unshift_shift (c : BitVec w) : r.unshift (r.shift c) = c := by
  have hlow : (c <<< 1).getLsbD 0 = false := by simp
  unfold shift
  split
  · rename_i hmsb
    have hodd : ((c <<< 1) ^^^ r.poly).getLsbD 0 = true := by
      rw [BitVec.getLsbD_xor, hlow, r.odd]
      rfl
    rw [unshift, if_pos hodd, BitVec.xor_assoc, BitVec.xor_self, BitVec.xor_zero]
    apply BitVec.eq_of_getLsbD_eq
    intro i hi
    rw [BitVec.getLsbD_or, BitVec.getLsbD_ushiftRight, BitVec.getLsbD_shiftLeft,
      BitVec.getLsbD_intMin]
    by_cases htop : i + 1 = w
    · have hset : c.getLsbD i = true := by
        rw [← hmsb, BitVec.msb_eq_getLsbD_last]
        congr 1
        omega
      simp [htop, hset]
    · have hin : 1 + i < w := by omega
      simp [htop, hin]
  · rename_i hmsb
    rw [unshift, if_neg (by simp)]
    apply BitVec.eq_of_getLsbD_eq
    intro i hi
    rw [BitVec.getLsbD_ushiftRight, BitVec.getLsbD_shiftLeft]
    by_cases htop : i + 1 = w
    · have hclear : c.getLsbD i = false := by
        have hlast : i = w - 1 := by omega
        rw [hlast, ← BitVec.msb_eq_getLsbD_last]
        simpa using hmsb
      simp [hclear]
    · have hin : 1 + i < w := by omega
      simp [hin]

theorem shift_injective : Function.Injective r.shift :=
  Function.LeftInverse.injective r.unshift_shift

theorem iterate_shift_eq_zero_iff (n : Nat) (c : BitVec w) : r.shift^[n] c = 0#w ↔ c = 0#w := by
  have hzero : r.shift^[n] 0#w = 0#w := Function.iterate_fixed r.shift_zero n
  constructor
  · intro h
    exact r.shift_injective.iterate n (h.trans hzero.symm)
  · rintro rfl
    exact hzero

theorem shift_xor (a b : BitVec w) : r.shift (a ^^^ b) = r.shift a ^^^ r.shift b := by
  unfold shift
  rw [BitVec.msb_xor, BitVec.shiftLeft_xor_distrib]
  cases a.msb <;> cases b.msb
  · rfl
  · exact BitVec.xor_assoc _ _ _
  · show (a <<< 1 ^^^ b <<< 1) ^^^ r.poly = (a <<< 1 ^^^ r.poly) ^^^ b <<< 1
    rw [BitVec.xor_assoc, BitVec.xor_comm (b <<< 1), ← BitVec.xor_assoc]
  · show a <<< 1 ^^^ b <<< 1 = (a <<< 1 ^^^ r.poly) ^^^ (b <<< 1 ^^^ r.poly)
    rw [BitVec.xor_comm (b <<< 1), ← BitVec.xor_assoc, BitVec.xor_assoc (a <<< 1),
      BitVec.xor_self, BitVec.xor_zero]

theorem iterate_shift_xor (n : Nat) (a b : BitVec w) :
    r.shift^[n] (a ^^^ b) = r.shift^[n] a ^^^ r.shift^[n] b := by
  induction n generalizing a b with
  | zero => rfl
  | succ _ ih =>
    rw [Function.iterate_succ_apply, r.shift_xor, ih]
    rfl

/-! ## Feeding bits -/

def feed (c : BitVec w) (b : Bool) : BitVec w :=
  r.shift (c ^^^ if b then BitVec.intMin w else 0#w)

def feedAll (c : BitVec w) (bits : List Bool) : BitVec w := bits.foldl r.feed c

theorem feedAll_append (c : BitVec w) (first second : List Bool) :
    r.feedAll c (first ++ second) = r.feedAll (r.feedAll c first) second :=
  List.foldl_append

theorem feedAll_zeros {bits : List Bool} (hbits : true ∉ bits) (c : BitVec w) :
    r.feedAll c bits = r.shift^[bits.length] c := by
  induction bits generalizing c with
  | nil => rfl
  | cons b _ ih =>
    obtain ⟨hb, hrest⟩ := List.ne_and_not_mem_of_not_mem_cons hbits
    obtain rfl : b = false := by simpa using hb.symm
    rw [feedAll, List.foldl_cons, feed, if_neg Bool.false_ne_true, BitVec.xor_zero]
    exact ih hrest _

def pack : List Bool → BitVec w
  | [] => 0#w
  | b :: rest => (if b then BitVec.intMin w else 0#w) ^^^ (pack rest >>> 1)

theorem pack_free (bits : List Bool) {i : Nat} (hi : i + bits.length < w) :
    (pack bits : BitVec w).getLsbD i = false := by
  induction bits generalizing i with
  | nil => simp [pack]
  | cons b _ ih =>
    rw [List.length_cons] at hi
    have htop : (if b then BitVec.intMin w else 0#w).getLsbD i = false := by
      split
      · rw [BitVec.getLsbD_intMin]
        simp
        omega
      · simp
    rw [pack, BitVec.getLsbD_xor, htop, BitVec.getLsbD_ushiftRight, ih (by omega)]
    rfl

theorem shift_pack {bits : List Bool} (hbits : bits.length < w) :
    r.shift (pack bits >>> 1) = pack bits := by
  have hmsb : (pack bits >>> 1 : BitVec w).msb = false := by
    rw [BitVec.msb_eq_getLsbD_last, BitVec.getLsbD_ushiftRight]
    exact BitVec.getLsbD_of_ge _ _ (by omega)
  rw [shift, if_neg (by simp [hmsb])]
  apply BitVec.eq_of_getLsbD_eq
  intro i hi
  rw [BitVec.getLsbD_shiftLeft, BitVec.getLsbD_ushiftRight]
  cases i with
  | zero => simp [pack_free bits (w := w) (i := 0) (by omega)]
  | succ i =>
    have hback : 1 + (i + 1 - 1) = i + 1 := by omega
    rw [hback]
    simp [hi]

theorem feedAll_eq {bits : List Bool} (hbits : bits.length ≤ w) (c : BitVec w) :
    r.feedAll c bits = r.shift^[bits.length] (c ^^^ pack bits) := by
  induction bits generalizing c with
  | nil =>
    rw [pack, BitVec.xor_zero]
    rfl
  | cons _ _ ih =>
    rw [List.length_cons] at hbits
    rw [feedAll, List.foldl_cons, List.length_cons, Function.iterate_succ_apply, pack,
      ← BitVec.xor_assoc, r.shift_xor (c ^^^ _), r.shift_pack hbits]
    exact ih (by omega) _

theorem pack_eq_zero {bits : List Bool} (hbits : bits.length ≤ w)
    (h : pack bits = 0#w) : true ∉ bits := by
  induction bits with
  | nil => exact List.not_mem_nil
  | cons b rest ih =>
    rw [List.length_cons] at hbits
    have hmsb : (pack rest >>> 1 : BitVec w).getLsbD (w - 1) = false := by
      rw [BitVec.getLsbD_ushiftRight]
      exact BitVec.getLsbD_of_ge _ _ (by omega)
    rw [pack] at h
    cases b with
    | true =>
      have htop := congrArg (BitVec.getLsbD · (w - 1)) h
      simp only [if_true, BitVec.getLsbD_xor, hmsb, BitVec.getLsbD_intMin] at htop
      simp at htop
      omega
    | false =>
      rw [if_neg Bool.false_ne_true, BitVec.zero_xor] at h
      have hrest : pack rest = 0#w := by
        apply BitVec.eq_of_getLsbD_eq
        intro i hi
        cases i with
        | zero =>
          rw [pack_free rest (by omega)]
          simp
        | succ i =>
          have hbit := congrArg (BitVec.getLsbD · i) h
          rw [BitVec.getLsbD_ushiftRight, Nat.add_comm] at hbit
          simpa using hbit
      simpa using ih (by omega) hrest

/-- **A burst is noticed.**  An error within `w` consecutive bits does not vanish. -/
theorem feedAll_burst {bits : List Bool} (hburst : Burst w bits) (hset : true ∈ bits) :
    r.feedAll 0#w bits ≠ 0#w := by
  obtain ⟨first, window, rest, rfl, hlength, hfirst, hrest⟩ := hburst.window
  have hwindow : true ∈ window := by
    rcases List.mem_append.mp hset with hmem | hmem
    · exact absurd hmem hfirst
    · rcases List.mem_append.mp hmem with hmem | hmem
      · exact hmem
      · exact absurd hmem hrest
  intro h
  rw [feedAll_append, feedAll_append, r.feedAll_zeros hfirst,
    Function.iterate_fixed r.shift_zero, r.feedAll_zeros hrest, iterate_shift_eq_zero_iff,
    r.feedAll_eq hlength, iterate_shift_eq_zero_iff, BitVec.zero_xor] at h
  exact pack_eq_zero hlength h hwindow

end Register

end IotController.Foundation
