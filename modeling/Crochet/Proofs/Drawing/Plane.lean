/-
# Crochet.Proofs.Drawing.Plane -- the box around some points

`Box.around` is the smallest box that holds its points: it holds all of them,
and points that are not all the same give it an extent.
-/
import Crochet.Drawing.Plane
import Crochet.Proofs.Geometry

set_option autoImplicit false

namespace Crochet.Box

/-- The point lies in the box, its sides included. -/
structure Holds (box : Box ℚ) (p : Point ℚ) : Prop where
  left_le : box.left ≤ p.x
  le_right : p.x ≤ box.right
  top_le : box.top ≤ p.y
  le_bottom : p.y ≤ box.bottom

theorem ofPoint_holds (p : Point ℚ) : (ofPoint p).Holds p :=
  ⟨le_refl p.x, le_refl p.x, le_refl p.y, le_refl p.y⟩

theorem add_eq (box : Box ℚ) (p : Point ℚ) :
    box.add p =
      ⟨min box.left p.x, min box.top p.y, max box.right p.x, max box.bottom p.y⟩ := by
  simp only [add, Scalar.lesser_eq, Scalar.greater_eq]

theorem add_holds (box : Box ℚ) (p : Point ℚ) : (box.add p).Holds p := by
  rw [add_eq]
  exact ⟨min_le_right _ _, le_max_right _ _, min_le_right _ _, le_max_right _ _⟩

/-- A box that grows keeps what it holds. -/
theorem Holds.add {box : Box ℚ} {q : Point ℚ} (holds : box.Holds q) (p : Point ℚ) :
    (box.add p).Holds q := by
  rw [add_eq]
  exact ⟨min_le_of_left_le holds.left_le, le_max_of_le_left holds.le_right,
    min_le_of_left_le holds.top_le, le_max_of_le_left holds.le_bottom⟩

theorem Holds.foldl {box : Box ℚ} {q : Point ℚ} (holds : box.Holds q) (points : List (Point ℚ)) :
    (points.foldl Box.add box).Holds q := by
  induction points generalizing box with
  | nil => exact holds
  | cons p points ih => exact ih (holds.add p)

theorem foldl_holds (box : Box ℚ) {points : List (Point ℚ)} {q : Point ℚ} (inside : q ∈ points) :
    (points.foldl Box.add box).Holds q := by
  induction points generalizing box with
  | nil => cases inside
  | cons p points ih =>
      rcases List.mem_cons.mp inside with rfl | later
      · exact (add_holds box q).foldl points
      · exact ih (box.add p) later

/-- The box around some points holds each of them. -/
theorem around_holds {points : List (Point ℚ)} {q : Point ℚ} (inside : q ∈ points) :
    ∃ box, around points = some box ∧ box.Holds q := by
  cases points with
  | nil => cases inside
  | cons p points =>
      refine ⟨_, rfl, ?_⟩
      rcases List.mem_cons.mp inside with rfl | later
      · exact (ofPoint_holds q).foldl points
      · exact foldl_holds _ later

theorem extent_eq (box : Box ℚ) :
    box.extent = max (box.right - box.left) (box.bottom - box.top) := by
  rw [extent, Scalar.greater_eq]
  rfl

/-- A box that holds two points has an extent. -/
theorem extent_pos {box : Box ℚ} {p q : Point ℚ} (first : box.Holds p) (second : box.Holds q)
    (differ : p ≠ q) : 0 < box.extent := by
  have apart : p.x ≠ q.x ∨ p.y ≠ q.y := by
    by_contra same
    push Not at same
    exact differ (by cases p; cases q; simp_all)
  rw [extent_eq, lt_max_iff, sub_pos, sub_pos]
  rcases apart with x | y
  · left
    rcases lt_or_gt_of_ne x with before | behind
    · exact lt_of_le_of_lt first.left_le (lt_of_lt_of_le before second.le_right)
    · exact lt_of_le_of_lt second.left_le (lt_of_lt_of_le behind first.le_right)
  · right
    rcases lt_or_gt_of_ne y with before | behind
    · exact lt_of_le_of_lt first.top_le (lt_of_lt_of_le before second.le_bottom)
    · exact lt_of_le_of_lt second.top_le (lt_of_lt_of_le behind first.le_bottom)

end Crochet.Box
