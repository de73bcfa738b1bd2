/-
  Strings of symbols on a serial line.

  Byte stuffing keeps reserved symbols out of a string: a reserved symbol is sent as the
  escape symbol and a masked one.  Whitening combines a string with a key stream of the same
  length.
-/
import Mathlib.Tactic

namespace IotController.Foundation

universe u v

abbrev Byte : Type := UInt8

/-! ## Stuffing -/

/-- A way to keep reserved symbols, the escape symbol among them, out of a string by masking. -/
structure Stuffing (α : Type u) where
  esc : α
  mask : α → α
  reserved : α → Bool
  mask_mask : ∀ a, mask (mask a) = a
  esc_reserved : reserved esc = true
  mask_free : ∀ a, reserved a = true → reserved (mask a) = false

namespace Stuffing

variable {α : Type u} (c : Stuffing α)

def stuff : List α → List α
  | [] => []
  | a :: rest =>
    if c.reserved a then c.esc :: c.mask a :: stuff rest else a :: stuff rest

/-- The string as it is read.  An escape symbol with nothing behind it is kept. -/
def unstuff [DecidableEq α] : List α → List α
  | [] => []
  | [a] => [a]
  | a :: b :: rest =>
    if a = c.esc then c.mask b :: unstuff rest else a :: unstuff (b :: rest)

theorem ne_esc {a : α} (ha : c.reserved a = false) : a ≠ c.esc := by
  rintro rfl
  rw [c.esc_reserved] at ha
  cases ha

theorem unstuff_escaped [DecidableEq α] (a : α) (rest : List α) :
    c.unstuff (c.esc :: c.mask a :: rest) = a :: c.unstuff rest := by
  rw [unstuff, if_pos rfl, c.mask_mask]

theorem unstuff_plain [DecidableEq α] {a : α} (ha : a ≠ c.esc) (rest : List α) :
    c.unstuff (a :: rest) = a :: c.unstuff rest := by
  cases rest with
  | nil => rfl
  | cons => rw [unstuff, if_neg ha]

theorem unstuff_stuff [DecidableEq α] (l : List α) : c.unstuff (c.stuff l) = l := by
  induction l with
  | nil => rfl
  | cons a _ ih =>
    cases ha : c.reserved a with
    | true => rw [stuff, if_pos ha, unstuff_escaped, ih]
    | false => rw [stuff, if_neg (by simp [ha]), unstuff_plain c (c.ne_esc ha), ih]

theorem eq_esc_of_mem_stuff {l : List α} {b : α} (hb : b ∈ c.stuff l)
    (hreserved : c.reserved b = true) : b = c.esc := by
  induction l with
  | nil => cases hb
  | cons a _ ih =>
    cases ha : c.reserved a with
    | true =>
      rw [stuff, if_pos ha] at hb
      rcases List.mem_cons.mp hb with rfl | hb
      · rfl
      rcases List.mem_cons.mp hb with rfl | hb
      · rw [c.mask_free a ha] at hreserved
        cases hreserved
      · exact ih hb
    | false =>
      rw [stuff, if_neg (by simp [ha])] at hb
      rcases List.mem_cons.mp hb with rfl | hb
      · rw [ha] at hreserved
        cases hreserved
      · exact ih hb

theorem not_mem_stuff {l : List α} {b : α} (hreserved : c.reserved b = true) (hb : b ≠ c.esc) :
    b ∉ c.stuff l :=
  fun hmem => hb (c.eq_esc_of_mem_stuff hmem hreserved)

theorem mem_stuff_iff {l : List α} {b : α} (hplain : c.reserved b = false)
    (hmask : ∀ a, c.reserved a = true → c.mask a ≠ b) : b ∈ c.stuff l ↔ b ∈ l := by
  induction l with
  | nil => rfl
  | cons a _ ih =>
    cases ha : c.reserved a with
    | true =>
      have hne : b ≠ a := by
        rintro rfl
        rw [hplain] at ha
        cases ha
      rw [stuff, if_pos ha, List.mem_cons, List.mem_cons, List.mem_cons, ih]
      simp [c.ne_esc hplain, (hmask a ha).symm, hne]
    | false => rw [stuff, if_neg (by simp [ha]), List.mem_cons, List.mem_cons, ih]

theorem masked_of_esc {l first rest : List α} (h : c.stuff l = first ++ c.esc :: rest) :
    ∃ a more, c.reserved a = true ∧ rest = c.mask a :: more := by
  induction l generalizing first with
  | nil => simp [stuff] at h
  | cons a l ih =>
    cases ha : c.reserved a with
    | true =>
      rw [stuff, if_pos ha] at h
      match first, h with
      | [], h =>
        obtain ⟨-, rfl⟩ := List.cons.inj h
        exact ⟨a, c.stuff l, ha, rfl⟩
      | [_], h =>
        obtain ⟨-, hmask⟩ := List.cons.inj h
        exact absurd (List.cons.inj hmask).1 (c.ne_esc (c.mask_free a ha))
      | _ :: _ :: first, h => exact ih (List.cons.inj (List.cons.inj h).2).2
    | false =>
      rw [stuff, if_neg (by simp [ha])] at h
      match first, h with
      | [], h => exact absurd (List.cons.inj h).1 (c.ne_esc ha)
      | _ :: first, h => exact ih (List.cons.inj h).2

theorem stuff_ne_nil {l : List α} (hl : l ≠ []) : c.stuff l ≠ [] := by
  cases l with
  | nil => exact absurd rfl hl
  | cons =>
    rw [stuff]
    split <;> simp

end Stuffing

theorem zipWith_zipWith_cancel {α : Type u} {κ : Type v} {op : α → κ → α}
    (cancel : ∀ a k, op (op a k) k = a) {l : List α} {keys : List κ}
    (hlength : l.length ≤ keys.length) :
    List.zipWith op (List.zipWith op l keys) keys = l := by
  induction l generalizing keys with
  | nil => rfl
  | cons _ _ ih =>
    cases keys with
    | nil => simp at hlength
    | cons =>
      simp only [List.zipWith_cons_cons, cancel]
      rw [ih (by simpa using hlength)]

/-! ## Words -/

def word (hi lo : Byte) : UInt16 := lo.toUInt16 ||| (hi.toUInt16 <<< 8)

theorem word_bytes (w : UInt16) : word (w >>> 8).toUInt8 w.toUInt8 = w := by
  apply UInt16.toBitVec_inj.mp
  ext i hi
  simp only [word, UInt16.toBitVec_or, UInt16.toBitVec_shiftLeft, UInt8.toBitVec_toUInt16]
  simp only [UInt16.toBitVec_toUInt8, UInt16.toBitVec_shiftRight, BitVec.getElem_or]
  by_cases hlow : i < 8
  · simp [hlow, BitVec.getLsbD_eq_getElem hi]
  · have hback : 8 + (i - 8) = i := by omega
    have hbyte : i - 8 < 8 := by omega
    simp [hlow, hbyte, hback, BitVec.getLsbD_eq_getElem hi]

theorem low_byte (w : UInt16) : (w &&& 0xFF).toUInt8 = w.toUInt8 := by
  apply UInt8.toBitVec_inj.mp
  rw [UInt16.toBitVec_toUInt8, UInt16.toBitVec_and, BitVec.setWidth_and]
  exact BitVec.and_allOnes

def beBytes : Nat → UInt64 → List Byte
  | 0, _ => []
  | n + 1, v => beBytes n (v >>> 8) ++ [v.toUInt8]

def beUint64 (p : List Byte) : UInt64 := p.foldl (fun v b => (v <<< 8) ||| b.toUInt64) 0

theorem beUint64_append (p : List Byte) (b : Byte) :
    beUint64 (p ++ [b]) = (beUint64 p <<< 8) ||| b.toUInt64 := by
  simp [beUint64]

@[simp] theorem beBytes_length (n : Nat) (v : UInt64) : (beBytes n v).length = n := by
  induction n generalizing v with
  | zero => rfl
  | succ _ ih => simp [beBytes, ih]

theorem push_byte (v : UInt64) : ((v >>> 8) <<< 8) ||| v.toUInt8.toUInt64 = v := by
  apply UInt64.toBitVec_inj.mp
  ext i hi
  simp only [UInt64.toBitVec_or, UInt64.toBitVec_shiftLeft, UInt64.toBitVec_shiftRight,
    UInt8.toBitVec_toUInt64, UInt64.toBitVec_toUInt8, BitVec.getElem_or]
  by_cases hlow : i < 8
  · simp [hlow, BitVec.getLsbD_eq_getElem hi]
  · have hback : 8 + (i - 8) = i := by omega
    simp [hlow, hback, BitVec.getLsbD_eq_getElem hi]

theorem beUint64_beBytes {n : Nat} {v : UInt64} (hfits : (fun w : UInt64 => w >>> 8)^[n] v = 0) :
    beUint64 (beBytes n v) = v := by
  induction n generalizing v with
  | zero => exact hfits.symm
  | succ _ ih => rw [beBytes, beUint64_append, ih hfits, push_byte]

theorem fits_eight (v : UInt64) : (fun w : UInt64 => w >>> 8)^[8] v = 0 := by
  apply UInt64.toBitVec_inj.mp
  ext i hi
  simp

theorem or_and_mask (a b mask : Byte) : (a ||| b) &&& mask = (a &&& mask) ||| (b &&& mask) :=
  UInt8.toBitVec_inj.mp BitVec.and_or_distrib_right

end IotController.Foundation
