/-
# Crochet.Drawing.Outline -- outlines and how they are written

An outline is a list of segments, each written as a letter and absolute
coordinates in their shortest decimals.  A circle is drawn with cubic curves:
four for small circles, and for a large one as many as keep the error small.
-/
import Crochet.Decimal.Shortest
import Crochet.Drawing.Plane

set_option autoImplicit false

namespace Crochet

/-- A segment of an outline. -/
inductive Segment where
  | move (p : Point Float)
  | line (p : Point Float)
  | curve (p q r : Point Float)
  | close

namespace Segment

def pair (p : Point Float) : List Char :=
  Decimal.shortestChars p.x ++ ',' :: Decimal.shortestChars p.y

def chars : Segment → List Char
  | move p => 'M' :: pair p
  | line p => 'L' :: pair p
  | curve p q r => 'C' :: pair p ++ ' ' :: pair q ++ ' ' :: pair r
  | close => ['Z']

end Segment

namespace Outline

/-- How an outline is written: its segments with a blank between them. -/
def chars (outline : List Segment) : List Char :=
  [' '].intercalate (outline.map Segment.chars)

def ofRun : List (Point Float) → List Segment
  | [] => []
  | p :: rest => .move p :: rest.map Segment.line

/-- How far a curve may stray from its circle. -/
def tolerance : Float := 0.1

/-- The largest radius per tolerance that four curves are good for. -/
def fourCurveLimit : Float := 1 / 1.9608e-4

def halfTurn : Float := 3.141592653589793

/-- The number of curves of a circle, and how long their arms are per radius. -/
def curves (radius : Float) : Nat × Float :=
  let ratio := radius.abs / tolerance
  if ratio < fourCurveLimit then (4, 0.551915024494)
  else
    let n := (Float.pow (1.1163 * ratio) (1 / 6)).ceil.toUInt64.toNat
    (n, 4 / 3 * (halfTurn / 2 / Float.ofNat n).tan)

/-- Curve `i` of `n` curves around a center; the last one ends where the first one starts. -/
def arc (center : Point Float) (radius arm : Float) (n i : Nat) : Segment :=
  let step := 2 * halfTurn / Float.ofNat n
  let stop := step * Float.ofNat i
  let start := stop - step
  let (s0, c0) := (start.sin, start.cos)
  let (s1, c1) := if i = n then (0, 1) else (stop.sin, stop.cos)
  .curve ⟨center.x + radius * (c0 - arm * s0), center.y + radius * (s0 + arm * c0)⟩
    ⟨center.x + radius * (c1 + arm * s1), center.y + radius * (s1 - arm * c1)⟩
    ⟨center.x + radius * c1, center.y + radius * s1⟩

def circle (center : Point Float) (radius : Float) : List Segment :=
  let (n, arm) := curves radius
  .move ⟨center.x + radius, center.y⟩ ::
    ((List.range n).map fun i => arc center radius arm n (i + 1)) ++ [.close]

end Outline

end Crochet
