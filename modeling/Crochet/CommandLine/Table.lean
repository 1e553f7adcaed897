/-
# Crochet.CommandLine.Table -- the lines that commands print

Numbers stand in columns.  A column that is too narrow is pushed, never
cut.
-/
import Crochet.Decimal.Fixed
import Crochet.Hint
import Crochet.Pattern
import Crochet.Ring

set_option autoImplicit false

namespace Crochet.CommandLine

def padRight (width : Nat) (text : String) : String :=
  text ++ String.ofList (List.replicate (width - text.length) ' ')

def padLeft (width : Nat) (text : String) : String :=
  String.ofList (List.replicate (width - text.length) ' ') ++ text

/-- What marks a round that increases, decreases, or both. -/
def flags (round : Round) : String :=
  match round.increases, round.decreases with
  | true, true => " +/-"
  | true, false => " +"
  | false, true => " -"
  | false, false => ""

def roundLine (round : Round) : String :=
  "R" ++ padRight 3 round.index.repr ++ " " ++ padLeft 5 round.stitches.toNat.repr ++ " st" ++
    padRight 5 (flags round) ++ " " ++ round.text

def hintLine? (round : Round) : Option String :=
  (Hint.forLine round.text.toList).map fun hint => "       " ++ hint.text

def roundLines (hints : Bool) (round : Round) : List String :=
  roundLine round :: if hints then (hintLine? round).toList else []

def summaryLine (summary : Summary) : String :=
  summary.rounds.repr ++ " rounds, " ++ summary.totalStitches.toNat.repr ++ " stitches, widest " ++
    summary.maxStitches.toNat.repr

/-- The radius of a ring: its first stitch's distance from the axis. -/
def radius (ring : Ring Float) : Float :=
  match ring.anchors[0]? with
  | some anchor => anchor.position.axisDistance
  | none => 0

/-- The line of a ring, the `number`-th that was built. -/
def ringLine (number : Nat) (ring : Ring Float) : String :=
  "R" ++ padRight 3 number.repr ++ " " ++ padLeft 5 ring.width.repr ++ " anchors  radius " ++
    Decimal.fixed 3 (radius ring) ++ "  ring " ++ padLeft 5 ring.band.size.repr ++ "  links " ++
    padLeft 5 ring.links.size.repr

end Crochet.CommandLine
