/-
# Crochet.Drawing.Style -- how a drawing looks

A drawing shows its rings from above or from the side.  The side view turns
heights over, because drawings count downwards.
-/
import Crochet.Color
import Crochet.Drawing.Plane
import Crochet.Error
import Crochet.Geometry.Vec3

set_option autoImplicit false

namespace Crochet

/-- The side that rings are seen from. -/
inductive View where
  /-- From above: rings are circles around one center. -/
  | topDown
  /-- From the side: rings stand on one another. -/
  | side
deriving DecidableEq, Repr

namespace View

def name : View → String
  | topDown => "TopDown"
  | side => "Side"

def byName : List (String × View) := [(topDown.name, topDown), (side.name, side)]

def project {α : Type} [Scalar α] (view : View) (p : Vec3 α) : Point α :=
  match view with
  | topDown => ⟨p.x, p.z⟩
  | side => ⟨p.x, -p.y⟩

end View

/-- The look of a drawing. -/
structure Style (α : Type) where
  view : View
  /-- The length of the longer side of the image. -/
  size : α
  margin : α
  dotRadius : α
  background : Option Color
deriving Repr

namespace Style

def usual : Style Float where
  view := .topDown
  size := 512
  margin := 16
  dotRadius := 3
  background := some Color.paper

def names : List String := ["projection", "size", "margin", "stitch_radius", "background"]

/-- The style of a record; a missing field has its usual value. -/
def ofJson? (value : Json) : Option (Style Float) := do
  let fields ← value.record? names
  some {
    view := ← fields.optional? "projection" usual.view (Json.choice? Json.isNull View.byName)
    size := ← fields.optional? "size" usual.size Json.float?
    margin := ← fields.optional? "margin" usual.margin Json.float?
    dotRadius := ← fields.optional? "stitch_radius" usual.dotRadius Json.float?
    background := ← fields.optional? "background" usual.background
      (Json.nullable? Color.ofJson?) }

def ofString (text : String) : Except Error (Style Float) :=
  match (Json.ofString? text).bind ofJson? with
  | some style => .ok style
  | none => .error (.serialization "not a style document")

end Style

end Crochet
