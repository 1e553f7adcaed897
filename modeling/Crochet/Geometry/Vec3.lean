/-
# Crochet.Geometry.Vec3 -- points and directions in space

The second coordinate points up.  Sums, differences and multiples are taken
coordinate by coordinate.
-/
import Crochet.Geometry.Scalar

set_option autoImplicit false

namespace Crochet

/-- A point or a direction. -/
structure Vec3 (α : Type) where
  x : α
  y : α
  z : α
deriving DecidableEq, BEq, Repr

namespace Vec3

variable {α : Type} [Scalar α]

instance : Add (Vec3 α) := ⟨fun a b => ⟨a.x + b.x, a.y + b.y, a.z + b.z⟩⟩

instance : Sub (Vec3 α) := ⟨fun a b => ⟨a.x - b.x, a.y - b.y, a.z - b.z⟩⟩

def scale (k : α) (v : Vec3 α) : Vec3 α := ⟨k * v.x, k * v.y, k * v.z⟩

def half (v : Vec3 α) : Vec3 α := ⟨v.x / 2, v.y / 2, v.z / 2⟩

def up : Vec3 α := ⟨0, 1, 0⟩

def length (v : Vec3 Float) : Float := (v.x * v.x + v.y * v.y + v.z * v.z).sqrt

def distance (a b : Vec3 Float) : Float := (a - b).length

/-- The length of a flat vector; infinite as soon as one coordinate is.  Dividing by the
larger coordinate keeps the squares in range. -/
def flatLength (x z : Float) : Float :=
  if x.isInf || z.isInf then 1 / 0
  else
    let larger := Scalar.greater x.abs z.abs
    if larger ≤ 0 then larger
    else larger * (x / larger * (x / larger) + z / larger * (z / larger)).sqrt

def axisDistance (v : Vec3 Float) : Float := flatLength v.x v.z

end Vec3

end Crochet
