/-
# Crochet.Drawing.Sheet -- rings on a sheet of paper

A sheet lists its marks in the order in which they are painted: the links of
all rings first, then each ring's band and on top of it one dot per stitch.
All yarns of a group make one mark, each yarn a run of thirteen points.  The
sheet is as large as the box around everything that is drawn, scaled so that
the longer side fills the size inside the margins.
-/
import Crochet.Drawing.Style
import Crochet.Ring

set_option autoImplicit false

namespace Crochet

/-- The groups of yarn. -/
inductive Strand where
  /-- Between two rings. -/
  | links
  /-- Inside a ring. -/
  | band
deriving DecidableEq, Repr

/-- Something painted on a sheet. -/
inductive Mark (α : Type) where
  /-- A group of yarns, each a run of points, painted with a line of some width. -/
  | yarns (strand : Strand) (runs : List (List (Point α))) (width : α)
  | dot (center : Point α) (color : Color)
deriving DecidableEq, Repr

/-- A drawing, ready to be written. -/
structure Sheet (α : Type) where
  width : α
  height : α
  background : Option Color
  dotRadius : α
  marks : List (Mark α)
deriving DecidableEq, Repr

namespace Sheet

def segments : Nat := 12

variable {α : Type} [Scalar α]

def runs (view : View) (yarns : Array (Yarn α)) : List (List (Point α)) :=
  yarns.toList.map fun yarn => (yarn.sample segments).map view.project

/-- Everything of a ring that is drawn: its stitches, its band, its links. -/
def pointsOf (view : View) (ring : Ring α) : List (Point α) :=
  (ring.anchors.toList.map fun anchor => view.project anchor.position) ++
    (runs view ring.band).flatten ++ (runs view ring.links).flatten

def box? (view : View) (rings : List (Ring α)) : Option (Box α) :=
  Box.around (rings.flatMap (pointsOf view))

/-- The sheet's frame: its extents, and where the points of the view go on it. -/
structure Frame (α : Type) where
  width : α
  height : α
  place : Affine α

/-- The factor that makes a box as large as the space inside the margins; a box without
extent keeps its scale. -/
def scaleFor (style : Style α) (box : Box α) : α :=
  if Scalar.below 0 box.extent then
    Scalar.greater (style.size - 2 * style.margin) 1 / box.extent
  else 1

def frame (style : Style α) : Option (Box α) → Frame α
  | none => { width := style.size, height := style.size, place := Affine.identity }
  | some box =>
    let scale := scaleFor style box
    { width := box.width * scale + 2 * style.margin
      height := box.height * scale + 2 * style.margin
      place := ((Affine.shift style.margin style.margin).after (Affine.scaling scale)).after
        (Affine.shift (-box.left) (-box.top)) }

/-- The mark of a group of yarns, whose first yarn gives the width; none for no yarns. -/
def strandMarks (view : View) (frame : Frame α) (strand : Strand) (yarns : Array (Yarn α)) :
    List (Mark α) :=
  match yarns[0]? with
  | none => []
  | some first =>
    [.yarns strand ((runs view yarns).map fun run => run.map frame.place.apply)
      (Scalar.greater (2 * (first.thickness * frame.place.a)) (1 / 2))]

/-- The dot of a stitch, in the color of its body. -/
def dotMark (view : View) (frame : Frame α) (anchor : Anchor α) : Mark α :=
  .dot (frame.place.apply (view.project anchor.position))
    ((anchor.stitch.parts.head?.map Part.color).getD Color.golden)

def ringMarks (view : View) (frame : Frame α) (ring : Ring α) : List (Mark α) :=
  strandMarks view frame .band ring.band ++ ring.anchors.toList.map (dotMark view frame)

def ofRings (style : Style α) (rings : List (Ring α)) : Sheet α :=
  let frame := frame style (box? style.view rings)
  { width := frame.width
    height := frame.height
    background := style.background
    dotRadius := style.dotRadius
    marks :=
      rings.flatMap (fun ring => strandMarks style.view frame .links ring.links) ++
        rings.flatMap (ringMarks style.view frame) }

end Sheet

end Crochet
