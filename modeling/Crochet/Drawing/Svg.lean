/-
# Crochet.Drawing.Svg -- a sheet as an SVG document

One line opens the document, one fills the background if there is one, every
mark of the sheet takes one line, and one line closes the document.  Lengths
have at most two decimals.
-/
import Crochet.Decimal.Fixed
import Crochet.Drawing.Outline
import Crochet.Drawing.Sheet

set_option autoImplicit false

namespace Crochet

namespace Strand

def color : Strand → Color
  | links => Color.amber
  | band => Color.golden

/-- How opaque a group of yarns is. -/
def opacity : Strand → String
  | links => "0.6"
  | band => "0.9"

end Strand

namespace Svg

def length (x : Float) : String := String.ofList (Decimal.compact (Decimal.fixedChars 2 x))

def attr (name value : String) : String := " " ++ name ++ "=\"" ++ value ++ "\""

/-- The line that opens a document. -/
def header (width height : Float) : String :=
  let w := length width
  let h := length height
  "<svg" ++ attr "xmlns" "http://www.w3.org/2000/svg" ++ attr "width" w ++
    attr "height" h ++ attr "viewBox" ("0 0 " ++ w ++ " " ++ h) ++ ">"

/-- The line that fills the background. -/
def backdrop (color : Color) : String :=
  "<rect" ++ attr "width" "100%" ++ attr "height" "100%" ++
    attr "fill" color.css ++ "/>"

def outline (segments : List Segment) : String :=
  attr "d" (String.ofList (Outline.chars segments))

def mark (dotRadius : Float) : Mark Float → String
  | .yarns strand runs width =>
    "<path" ++ outline (runs.flatMap Outline.ofRun) ++ attr "fill" "none" ++
      attr "stroke" strand.color.css ++ attr "stroke-width" (length width) ++
      attr "stroke-opacity" strand.opacity ++ attr "stroke-linecap" "round" ++ "/>"
  | .dot center color =>
    "<path" ++ outline (Outline.circle center dotRadius) ++ attr "fill" color.css ++ "/>"

/-- The line that closes a document. -/
def footer : String := "</svg>"

def lines (sheet : Sheet Float) : List String :=
  header sheet.width sheet.height :: (sheet.background.map backdrop).toList ++
    sheet.marks.map (mark sheet.dotRadius) ++ [footer]

/-- The document of a sheet: its lines, each ended by a line feed. -/
def text (sheet : Sheet Float) : String :=
  String.join ((lines sheet).map fun line => line ++ "\n")

def ofRings (style : Style Float) (rings : List (Ring Float)) : String :=
  text (Sheet.ofRings style rings)

end Svg

end Crochet
