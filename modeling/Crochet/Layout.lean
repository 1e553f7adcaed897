/-
# Crochet.Layout -- how a ring is laid out

The options of one ring.  Each has a default, so a document may name any of
them.
-/
import Crochet.Stitch
import Crochet.Count

set_option autoImplicit false

namespace Crochet

/-- The options for laying out a ring. -/
structure Layout where
  /-- The stitch placed at every anchor. -/
  kind : StitchKind
  /-- The droop of the yarn between neighbours. -/
  sag : Float
  /-- The radius of the yarn's tube. -/
  thickness : Float
  /-- A wider ring is laid out with this many stitches. -/
  maxStitches : Option Count
deriving Repr

namespace Layout

/-- Single crochets, the usual yarn, and no cap. -/
def usual : Layout where
  kind := .singleCrochet
  sag := Yarn.usualSag
  thickness := Yarn.usualThickness
  maxStitches := none

def names : List String := ["stitch_kind", "round_sag", "yarn_thickness", "max_stitches"]

/-- The layout of some options; `isNothing` says what may stand for nothing around a kind. -/
def ofFields? (isNothing : Json → Bool) (fields : Json.Fields) : Option Layout := do
  some {
    kind := ← fields.optional? "stitch_kind" usual.kind
      (Json.choice? isNothing StitchKind.byName)
    sag := ← fields.optional? "round_sag" usual.sag Json.float?
    thickness := ← fields.optional? "yarn_thickness" usual.thickness Json.float?
    maxStitches := ← fields.optional? "max_stitches" usual.maxStitches
      (Json.nullable? Json.uint32?) }

def ofJson? (value : Json) : Option Layout :=
  (value.record? names).bind (ofFields? Json.isNull)

end Layout

end Crochet
