/-
# Crochet.Drawing.Plane -- points, boxes and affine maps of a plane

A box is the smallest one around some points.  An affine map is kept as its
six coefficients and applied as they say, so a product with an infinite factor
shows in every coordinate it reaches.
-/
import Crochet.Geometry.Scalar

set_option autoImplicit false

namespace Crochet

/-- A point of the plane. -/
structure Point (α : Type) where
  x : α
  y : α
deriving DecidableEq, Repr

/-- A box with sides along the axes. -/
structure Box (α : Type) where
  left : α
  top : α
  right : α
  bottom : α
deriving DecidableEq, Repr

/-- The map to `(a x + c y + e, b x + d y + f)`. -/
structure Affine (α : Type) where
  a : α
  b : α
  c : α
  d : α
  e : α
  f : α
deriving DecidableEq, Repr

variable {α : Type} [Scalar α]

namespace Box

def ofPoint (p : Point α) : Box α := ⟨p.x, p.y, p.x, p.y⟩

def add (box : Box α) (p : Point α) : Box α where
  left := Scalar.lesser box.left p.x
  top := Scalar.lesser box.top p.y
  right := Scalar.greater box.right p.x
  bottom := Scalar.greater box.bottom p.y

/-- The box around some points; nothing when there are none. -/
def around : List (Point α) → Option (Box α)
  | [] => none
  | p :: rest => some (rest.foldl add (ofPoint p))

/-- The extent along the first axis. -/
def width (box : Box α) : α := box.right - box.left

/-- The extent along the second axis. -/
def height (box : Box α) : α := box.bottom - box.top

def extent (box : Box α) : α := Scalar.greater box.width box.height

end Box

namespace Affine

def identity : Affine α := ⟨1, 0, 0, 1, 0, 0⟩

/-- The map that adds a vector. -/
def shift (x y : α) : Affine α := ⟨1, 0, 0, 1, x, y⟩

/-- The map that multiplies by a factor. -/
def scaling (k : α) : Affine α := ⟨k, 0, 0, k, 0, 0⟩

/-- The map that first does the second map and then the first. -/
def after (m n : Affine α) : Affine α where
  a := m.a * n.a + m.c * n.b
  b := m.b * n.a + m.d * n.b
  c := m.a * n.c + m.c * n.d
  d := m.b * n.c + m.d * n.d
  e := m.a * n.e + m.c * n.f + m.e
  f := m.b * n.e + m.d * n.f + m.f

def apply (m : Affine α) (p : Point α) : Point α :=
  ⟨m.a * p.x + m.c * p.y + m.e, m.b * p.x + m.d * p.y + m.f⟩

end Affine

end Crochet
