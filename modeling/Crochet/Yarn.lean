/-
# Crochet.Yarn -- a piece of yarn between two stitches

A yarn runs from its start through a midpoint, where it sags, to its end.
Between the three points it is a cubic curve whose tangent at a point is half
the difference of the points on both sides; beyond each end the curve is
continued by reflection.  `at` walks the curve for a parameter from zero to
one and reaches the midpoint at one half.
-/
import Crochet.Geometry.Vec3
import Crochet.Json.Record

set_option autoImplicit false

namespace Crochet

/-- A yarn: three points that it passes through, and the radius of its tube. -/
structure Yarn (α : Type) where
  start : Vec3 α
  middle : Vec3 α
  stop : Vec3 α
  thickness : α
deriving DecidableEq, BEq, Repr

namespace Yarn

/-- The usual droop between neighbours in a ring. -/
def usualSag : Float := 0.1

def usualThickness : Float := 0.03

variable {α : Type} [Scalar α]

/-- The yarn between two points that droops by `sag` halfway along. -/
def connect (start stop : Vec3 α) (sag thickness : α) : Yarn α where
  start := start
  middle := (start + stop).half - Vec3.up.scale sag
  stop := stop
  thickness := thickness

/-- The cubic from `x0` to `x1` with tangents `t0` and `t1`. -/
def cubic (x0 x1 t0 t1 : Vec3 α) (t : α) : Vec3 α :=
  let c2 := x0.scale (-3) + x1.scale 3 - t0.scale 2 - t1
  let c3 := x0.scale 2 - x1.scale 2 + t0 + t1
  x0 + t0.scale t + c2.scale (t * t) + c3.scale (t * t * t)

/-- The first half of the curve, from the start to the midpoint. -/
def firstHalf (yarn : Yarn α) (t : α) : Vec3 α :=
  let before := yarn.start.scale 2 - yarn.middle
  cubic yarn.start yarn.middle (yarn.middle - before).half (yarn.stop - yarn.start).half t

/-- The second half of the curve, from the midpoint to the end. -/
def secondHalf (yarn : Yarn α) (t : α) : Vec3 α :=
  let beyond := yarn.stop.scale 2 - yarn.middle
  cubic yarn.middle yarn.stop (yarn.stop - yarn.start).half (beyond - yarn.middle).half t

/-- The point of the curve at a parameter; outside of zero to one the nearest end. -/
def pointAt (yarn : Yarn α) (t : α) : Vec3 α :=
  let p := 2 * Scalar.clamp 0 1 t
  if 2 ≤ p then yarn.secondHalf 1
  else if 1 ≤ p then yarn.secondHalf (p - 1)
  else yarn.firstHalf p

/-- Evenly spaced points of the curve, both ends included; at least one segment. -/
def sample (yarn : Yarn α) (segments : Nat) : List (Vec3 α) :=
  let segments := max segments 1
  (List.range (segments + 1)).map fun i =>
    yarn.pointAt (Scalar.ofNat i / Scalar.ofNat segments)

/-- The length of the line through the samples. -/
def approxLength (yarn : Yarn Float) (segments : Nat) : Float :=
  ((yarn.sample segments).zip ((yarn.sample segments).drop 1)).foldl
    (fun sum (a, b) => sum + a.distance b) 0

def vector? : Json → Option (Vec3 Float)
  | .array [x, y, z] => do some ⟨← x.float?, ← y.float?, ← z.float?⟩
  | _ => none

/-- The yarn of a record with the fields `control` and `thickness`. -/
def ofJson? (value : Json) : Option (Yarn Float) := do
  let fields ← value.record? ["control", "thickness"]
  let points ← fields.required? "control" (Json.list? vector?)
  let thickness ← fields.required? "thickness" Json.float?
  match points with
  | [start, middle, stop] => some ⟨start, middle, stop, thickness⟩
  | _ => none

end Yarn

end Crochet
