/-
# Crochet.Ring -- a laid-out round

A ring holds one anchor per stitch, evenly spaced around the upward axis, the
band of yarn that closes the ring, and the links down to the ring below.
Stitch `i` is banded to stitch `i + 1`, the last one to the first; a ring of
one stitch has no neighbour and no band.  Stitch `i` is linked to stitch
`i` modulo the width of the ring below, so a wider ring fans out.
-/
import Crochet.Journal
import Crochet.Layout

set_option autoImplicit false

namespace Crochet

/-- A stitch and where it is placed. -/
structure Anchor (α : Type) where
  position : Vec3 α
  stitch : Stitch α
deriving BEq, Repr

/-- A laid-out round. -/
structure Ring (α : Type) where
  /-- The stitches in angular order. -/
  anchors : Array (Anchor α)
  /-- The yarn that closes the ring. -/
  band : Array (Yarn α)
  /-- The yarn down to the ring below. -/
  links : Array (Yarn α)
deriving BEq, Repr

namespace Ring

def width {α : Type} (ring : Ring α) : Nat := ring.anchors.size

def fullTurn : Float := 6.283185307179586

/-- The place of stitch `i` of `n` on a circle around the upward axis. -/
def place (n : Nat) (radius height : Float) (i : Nat) : Vec3 Float :=
  let angle := fullTurn * Float.ofNat i / Float.ofNat n
  ⟨angle.cos * radius, height, angle.sin * radius⟩

/-- The number of stitches that a count is laid out with. -/
def laidOut (layout : Layout) (count : Count) : Nat :=
  match layout.maxStitches with
  | some limit => (min count limit).toNat
  | none => count.toNat

/-- What laying out a count reports: that the ring is too wide, if it is. -/
def clampEvents (layout : Layout) (count : Count) : List Event :=
  match layout.maxStitches with
  | some limit => if limit < count then [.ringClamped count limit] else []
  | none => []

def build (count : Count) (radius height : Float) (layout : Layout) : Ring Float :=
  let n := laidOut layout count
  let anchor (i : Nat) : Anchor Float :=
    { position := place n radius height i, stitch := Stitch.ofKind layout.kind }
  let banded (i : Nat) : Yarn Float :=
    Yarn.connect (place n radius height i) (place n radius height ((i + 1) % n)) layout.sag
      layout.thickness
  { anchors := (Array.range n).map anchor
    band := if n < 2 then #[] else (Array.range n).map banded
    links := #[] }

/-- The yarns from the ring below up to every stitch of a ring; none when there is nothing
below. -/
def linksTo {α : Type} [Scalar α] (below above : Ring α) (sag thickness : α) : Array (Yarn α) :=
  if h : 0 < below.anchors.size then
    above.anchors.mapIdx fun i anchor =>
      have : i % below.anchors.size < below.anchors.size := Nat.mod_lt i h
      Yarn.connect below.anchors[i % below.anchors.size].position anchor.position sag thickness
  else #[]

def linked {α : Type} [Scalar α] (below above : Ring α) (sag thickness : α) : Ring α :=
  { above with links := above.links ++ linksTo below above sag thickness }

end Ring

end Crochet
