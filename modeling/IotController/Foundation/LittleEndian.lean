/-
  Integers of fixed width in little endian.

  `putLE n v` writes the lowest `n` bytes of `v`, the lowest first; `getLE w bytes` reads
  all of `bytes` into `w` bits.  What is written in enough bytes is read back
  (`getLE_putLE`).
-/
import IotController.Foundation.Bytes

namespace IotController.Foundation

variable {w : Nat}

def putLE : Nat → BitVec w → List Byte
  | 0, _ => []
  | n + 1, v => UInt8.ofBitVec (v.setWidth 8) :: putLE n (v >>> 8)

def getLE (w : Nat) : List Byte → BitVec w
  | [] => 0#w
  | b :: rest => (getLE w rest <<< 8) ||| b.toBitVec.setWidth w

@[simp] theorem length_putLE (n : Nat) (v : BitVec w) : (putLE n v).length = n := by
  induction n generalizing v with
  | zero => rfl
  | succ _ ih => rw [putLE, List.length_cons, ih]

theorem shiftLeft_or_lowByte (v : BitVec w) :
    ((v >>> 8) <<< 8) ||| (v.setWidth 8).setWidth w = v := by
  apply BitVec.eq_of_getLsbD_eq
  intro i hi
  simp only [BitVec.getLsbD_or, BitVec.getLsbD_shiftLeft, BitVec.getLsbD_ushiftRight,
    BitVec.getLsbD_setWidth, hi, decide_true, Bool.true_and]
  by_cases hlow : i < 8
  · simp [hlow]
  · have hplace : 8 + (i - 8) = i := by omega
    simp [hlow, hplace]

theorem getLE_putLE {n : Nat} {v : BitVec w} (hfits : v >>> (8 * n) = 0#w) :
    getLE w (putLE n v) = v := by
  induction n generalizing v with
  | zero => exact hfits.symm
  | succ n ih =>
    have hrest : (v >>> 8) >>> (8 * n) = 0#w := by
      rw [← BitVec.shiftRight_add, ← hfits]
      congr 1
      omega
    rw [putLE, getLE, ih hrest]
    exact shiftLeft_or_lowByte v

theorem getLE_putLE_self (n : Nat) (v : BitVec (8 * n)) : getLE (8 * n) (putLE n v) = v :=
  getLE_putLE (BitVec.ushiftRight_eq_zero le_rfl)

section

variable {n : Nat}

theorem length_flatMap_putLE (values : List (BitVec w)) :
    (values.flatMap (putLE n)).length = n * values.length := by
  induction values with
  | nil => simp
  | cons _ _ ih =>
    rw [List.flatMap_cons, List.length_append, length_putLE, ih, List.length_cons]
    ring

theorem map_getLE_flatMap_putLE (values : List (BitVec (8 * n))) (rest : List Byte) :
    (List.range values.length).map
      (fun i => getLE (8 * n) (((values.flatMap (putLE n) ++ rest).drop (n * i)).take n)) =
      values := by
  induction values with
  | nil => rfl
  | cons v values ih =>
    have hfirst : ((v :: values).flatMap (putLE n) ++ rest).take n = putLE n v := by
      rw [List.flatMap_cons, List.append_assoc, List.take_left' (length_putLE n v)]
    have hrest (i : Nat) : ((v :: values).flatMap (putLE n) ++ rest).drop (n * (i + 1)) =
        (values.flatMap (putLE n) ++ rest).drop (n * i) := by
      rw [List.flatMap_cons, List.append_assoc, Nat.mul_succ, Nat.add_comm, ← List.drop_drop,
        List.drop_left' (length_putLE n v)]
    rw [List.length_cons, List.range_succ_eq_map, List.map_cons, List.map_map, Nat.mul_zero,
      List.drop_zero, hfirst, getLE_putLE_self]
    congr 1
    refine Eq.trans (List.map_congr_left fun i _ => ?_) ih
    rw [Function.comp_apply, Nat.succ_eq_add_one, hrest]

end

end IotController.Foundation
