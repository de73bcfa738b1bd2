/-
  Numbers as text.

  Ids, cache entries and map keys carry numbers as text, so that two of them are
  compared as strings.  A decimal text and a hexadecimal text of fixed width have
  one reading.
-/
import Mathlib.Tactic

namespace IotController.Foundation

theorem isDigit_of_mem_repr {n : Nat} {c : Char} (h : c ∈ n.repr.toList) : c.isDigit = true := by
  have hdigits : n.repr.toList = Nat.toDigits 10 n := by simp [Nat.repr]
  rw [hdigits] at h
  exact Nat.isDigit_of_mem_toDigits (by norm_num) (by norm_num) h

theorem notMem_intRepr {c : Char} (hc : c ≠ '-' ∧ c.isDigit = false) (n : Int) :
    c ∉ n.repr.toList := by
  have hnat : ∀ m : Nat, c ∉ m.repr.toList := fun m h =>
    absurd (isDigit_of_mem_repr h) (by simp [hc.2])
  cases n with
  | ofNat m => exact hnat m
  | negSucc m =>
    have hlist : (Int.repr (.negSucc m)).toList = '-' :: (m + 1).repr.toList := by
      simp [Int.repr, String.toList_append]
    rw [hlist]
    exact fun h => (List.mem_cons.mp h).elim hc.1 (hnat _)

theorem natRepr_injective {m n : Nat} (h : m.repr = n.repr) : m = n := by
  have hdigits : Nat.toDigits 10 m = Nat.toDigits 10 n := by
    simpa [Nat.repr] using congrArg String.toList h
  have hread := congrArg (fun digits => Nat.ofDigitChars 10 digits 0) hdigits
  simpa [Nat.ofDigitChars_toDigits] using hread

theorem intRepr_injective {m n : Int} (h : m.repr = n.repr) : m = n := by
  have hneg : ∀ k : Nat, (Int.repr (.negSucc k)).toList = '-' :: (k + 1).repr.toList := by
    intro k
    simp [Int.repr, String.toList_append]
  -- a sign is not a digit
  have hsign : ∀ k l : Nat, (Int.repr (.ofNat k)).toList ≠ (Int.repr (.negSucc l)).toList := by
    intro k l heq
    have hmem : '-' ∈ (Int.repr (.ofNat k)).toList := by
      rw [heq, hneg]
      exact List.mem_cons_self
    exact absurd (isDigit_of_mem_repr hmem) (by decide)
  have hlist := congrArg String.toList h
  cases m with
  | ofNat k =>
    cases n with
    | ofNat => exact congrArg Int.ofNat (natRepr_injective h)
    | negSucc l => exact absurd hlist (hsign k l)
  | negSucc k =>
    cases n with
    | ofNat l => exact absurd hlist.symm (hsign l k)
    | negSucc =>
      rw [hneg, hneg, List.cons.injEq] at hlist
      have hsucc := natRepr_injective (String.toList_inj.mp hlist.2)
      rw [Nat.succ.inj hsucc]

/-! ## Hexadecimal -/

def hexDigits (width n : Nat) : List Char :=
  (List.range width).reverse.map fun i => Nat.digitChar (n / 16 ^ i % 16)

theorem digitChar_injective_of_lt {m n : Nat} (hm : m < 16) (hn : n < 16)
    (h : Nat.digitChar m = Nat.digitChar n) : m = n := by
  have hall : ∀ m n : Fin 16, Nat.digitChar m = Nat.digitChar n → m = n := by decide
  exact congrArg Fin.val (hall ⟨m, hm⟩ ⟨n, hn⟩ h)

theorem mod_pow_eq_of_digits {base m n width : Nat}
    (h : ∀ i < width, m / base ^ i % base = n / base ^ i % base) :
    m % base ^ width = n % base ^ width := by
  induction width with
  | zero => simp [Nat.mod_one]
  | succ width ih =>
    rw [Nat.mod_pow_succ, Nat.mod_pow_succ, ih fun i hi => h i (Nat.lt_succ_of_lt hi),
      h width (Nat.lt_succ_self width)]

theorem hexDigits_injective {width m n : Nat} (hm : m < 16 ^ width) (hn : n < 16 ^ width)
    (h : hexDigits width m = hexDigits width n) : m = n := by
  have hdigits : ∀ i < width, m / 16 ^ i % 16 = n / 16 ^ i % 16 := by
    intro i hi
    have hmem : i ∈ (List.range width).reverse := List.mem_reverse.mpr (List.mem_range.mpr hi)
    refine digitChar_injective_of_lt (Nat.mod_lt _ (by norm_num)) (Nat.mod_lt _ (by norm_num)) ?_
    exact List.map_inj_left.mp h i hmem
  have hmod := mod_pow_eq_of_digits hdigits
  rwa [Nat.mod_eq_of_lt hm, Nat.mod_eq_of_lt hn] at hmod

theorem forall_mem_hexDigits {P : Char → Prop} (h : ∀ d : Fin 16, P (Nat.digitChar d))
    {width n : Nat} {c : Char} (hc : c ∈ hexDigits width n) : P c := by
  obtain ⟨i, -, rfl⟩ := List.mem_map.mp hc
  exact h ⟨n / 16 ^ i % 16, Nat.mod_lt _ (by norm_num)⟩

end IotController.Foundation
