/-
# Crochet.Proofs.Geometry -- geometry over exact numbers

Curves and drawings are written over any `Scalar`.  Over the rational numbers
their arithmetic is exact and every two numbers compare, so `lesser`, `greater`
and `clamp` are the minimum, the maximum and both.
-/
import Crochet.Geometry.Vec3
import Mathlib.Algebra.Order.Ring.Rat
import Mathlib.Tactic.Ring
import Mathlib.Tactic.Linarith

set_option autoImplicit false

namespace Crochet

instance : Scalar ℚ where
  ofNat n := n
  decidableLe := inferInstance

namespace Scalar

theorem ofNat_eq (n : ℕ) : (Scalar.ofNat n : ℚ) = n := rfl

theorem lesser_eq (a b : ℚ) : lesser a b = min a b := by
  simp only [lesser, le_refl, if_true]
  exact (min_def a b).symm

theorem greater_eq (a b : ℚ) : greater a b = max a b := by
  simp only [greater, le_refl, if_true]
  exact (max_def' a b).symm

theorem below_iff (a b : ℚ) : below a b = true ↔ a < b := by
  simp only [below, Bool.and_eq_true, decide_eq_true_eq, Bool.not_eq_true', decide_eq_false_iff_not]
  exact lt_iff_le_not_ge.symm

/-- Between its bounds a number is kept, and outside of them the nearer one is taken. -/
theorem clamp_eq {low high : ℚ} (ordered : low ≤ high) (a : ℚ) :
    clamp low high a = max low (min a high) := by
  unfold clamp
  split_ifs with below above
  · rw [max_eq_left (min_le_of_left_le below)]
  · rw [min_eq_right above, max_eq_right ordered]
  · rw [min_eq_left (le_of_not_ge above), max_eq_right (le_of_not_ge below)]

end Scalar

attribute [ext] Vec3

namespace Vec3

variable {α : Type} [Scalar α]

theorem add_eq (a b : Vec3 α) : a + b = ⟨a.x + b.x, a.y + b.y, a.z + b.z⟩ := rfl

theorem sub_eq (a b : Vec3 α) : a - b = ⟨a.x - b.x, a.y - b.y, a.z - b.z⟩ := rfl

end Vec3

end Crochet
