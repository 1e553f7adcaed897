/-
# Crochet.Proofs.Count -- capping commutes with counting

Arithmetic on counts is exact arithmetic that is capped: a sum, a product or a
growth of capped numbers is the capped sum, product or growth of the numbers
themselves.  So capping at every step comes to capping once at the end.
-/
import Crochet.Count
import Mathlib.Algebra.GroupWithZero.Nat
import Mathlib.Tactic.Common

set_option autoImplicit false

namespace Crochet.Count

theorem toNat_cap (n : Nat) : (cap n).toNat = min n greatest := by
  have small : min n greatest < UInt32.size := by
    have : greatest < UInt32.size := by decide
    omega
  exact UInt32.toNat_ofNat_of_lt' small

/-- A count is capped already. -/
theorem cap_toNat (count : Count) : cap count.toNat = count := by
  apply UInt32.toNat_inj.mp
  have small : count.toNat < 4294967296 := count.toNat_lt
  rw [toNat_cap, greatest]
  omega

/-- Numbers that agree up to the greatest count are capped alike. -/
theorem cap_congr {m n : Nat} (same : min m greatest = min n greatest) : cap m = cap n := by
  rw [cap, same, cap]

theorem plus_cap (m n : Nat) : (cap m).plus (cap n) = cap (m + n) := by
  apply cap_congr
  simp only [toNat_cap]
  omega

/-- Capping a factor does not show in a capped product: a product with a factor that is too large
is zero or too large itself. -/
theorem min_mul_min (m n : Nat) :
    min (m * min n greatest) greatest = min (m * n) greatest := by
  rcases Nat.le_total n greatest with small | large
  · rw [Nat.min_eq_left small]
  · rw [Nat.min_eq_right large]
    rcases Nat.eq_zero_or_pos m with rfl | some
    · simp
    · have capped : greatest ≤ m * greatest := Nat.le_mul_of_pos_left greatest some
      have exceeds : m * greatest ≤ m * n := Nat.mul_le_mul_left m large
      omega

theorem times_cap (m n : Nat) : (cap m).times (cap n) = cap (m * n) := by
  apply cap_congr
  rw [toNat_cap, toNat_cap, min_mul_min, Nat.mul_comm, min_mul_min, Nat.mul_comm]

theorem grown_cap (n : Nat) : (cap n).grown = cap (3 * n / 2) := by
  apply cap_congr
  have half : (cap n / 2).toNat = (cap n).toNat / 2 := UInt32.toNat_div _ _
  rw [half, toNat_cap]
  omega

/-- Adding up capped numbers one after another caps their sum. -/
theorem foldl_plus_cap (start : Nat) (numbers : List Nat) :
    (numbers.map cap).foldl plus (cap start) = cap (start + numbers.sum) := by
  induction numbers generalizing start with
  | nil => rfl
  | cons n numbers ih =>
      rw [List.map_cons, List.foldl_cons, plus_cap, ih, List.sum_cons, Nat.add_assoc]

end Crochet.Count
