/-
# Crochet.Stitch -- what a stitch looks like

A stitch is a few colored solids around an origin, its body first.  It knows
no position; a ring pairs it with one.  `extent` bounds it from below and
above.
-/
import Crochet.Color
import Crochet.Yarn

set_option autoImplicit false

namespace Crochet

/-- The kinds of stitches that have a look, in US words. -/
inductive StitchKind where
  | singleCrochet
  | doubleCrochet
deriving DecidableEq, BEq, Repr, Inhabited

namespace StitchKind

def name : StitchKind → String
  | singleCrochet => "SingleCrochet"
  | doubleCrochet => "DoubleCrochet"

def byName : List (String × StitchKind) :=
  [(singleCrochet.name, singleCrochet), (doubleCrochet.name, doubleCrochet)]

end StitchKind

/-- A solid. -/
inductive Shape (α : Type) where
  /-- A sphere, stretched along each axis. -/
  | ellipsoid (radius : α) (scale : Vec3 α)
  /-- A cylinder along the upward axis, tipped over around the first axis. -/
  | cylinder (radiusTop radiusBottom length tilt : α)
deriving BEq, Repr

/-- A solid of a stitch, placed relative to the stitch's origin. -/
structure Part (α : Type) where
  shape : Shape α
  offset : Vec3 α
  color : Color
deriving BEq, Repr

/-- The look of a stitch. -/
structure Stitch (α : Type) where
  kind : StitchKind
  parts : List (Part α)
deriving BEq, Repr

namespace Shape

/-- How far a shape reaches up and down from its center. -/
def halfHeight : Shape Float → Float
  | ellipsoid radius scale => radius * scale.y
  | cylinder radiusTop radiusBottom length tilt =>
    let radius := Scalar.greater radiusTop radiusBottom
    (length / 2 * tilt.cos).abs + (radius * tilt.sin).abs

end Shape

namespace Part

/-- The lowest and the highest point of a part. -/
def extent (part : Part Float) : Float × Float :=
  (part.offset.y - part.shape.halfHeight, part.offset.y + part.shape.halfHeight)

end Part

namespace Stitch

/-- The lowest and the highest point of a stitch; its origin counts too. -/
def extent (stitch : Stitch Float) : Float × Float :=
  stitch.parts.foldl
    (fun (low, high) part =>
      (Scalar.lesser low part.extent.1, Scalar.greater high part.extent.2))
    (0, 0)

def quarterTurn : Float := 1.5707963267948966

/-- The look of a single crochet: a ball, and a yarn tail that lies flat under it. -/
def single : Stitch Float where
  kind := .singleCrochet
  parts := [
    { shape := .ellipsoid 0.15 ⟨1, 1, 1⟩, offset := ⟨0, 0, 0⟩, color := Color.golden },
    { shape := .cylinder 0.02 0.02 0.08 quarterTurn, offset := ⟨0, -0.12, 0⟩,
      color := Color.amber }]

/-- The look of a double crochet: a tall ball, and a tapered tip on top of it. -/
def double : Stitch Float where
  kind := .doubleCrochet
  parts := [
    { shape := .ellipsoid 0.12 ⟨1, 2.2, 1⟩, offset := ⟨0, 0, 0⟩, color := Color.amber },
    { shape := .cylinder 0.03 0.01 0.04 0, offset := ⟨0, 0.25, 0⟩, color := Color.yarnTip }]

def ofKind : StitchKind → Stitch Float
  | .singleCrochet => single
  | .doubleCrochet => double

end Stitch

end Crochet
