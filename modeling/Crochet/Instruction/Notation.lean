/-
# Crochet.Instruction.Notation -- the marks a counting line is searched for

Three marks carry numbers: a stated total `(N)` at the very end of the line,
a bracket group `[...] xN`, and plain digit runs.  Each finder says which
occurrence of its mark counts: the only possible one for a total, the leftmost
one that is complete for a bracket group.
-/
import Crochet.Count
import Crochet.Text.Blank
import Crochet.Text.Digit
import Crochet.Text.Pieces

set_option autoImplicit false

namespace Crochet.Instruction

open Text

/-- The count a digit run stands for.  A run that is not all ASCII digits stands for the
greatest count, and so does a number that does not fit. -/
def readCount (digits : List Char) : Count :=
  match decimalValue? digits with
  | some n => Count.cap n
  | none => Count.cap Count.greatest

/-- The digits of the `(N)` that ends the line. -/
def statedTotal (line : List Char) : Option (List Char) :=
  match line.reverse with
  | ')' :: rest =>
    match rest.takeWhile isDigit, rest.dropWhile isDigit with
    | d :: ds, '(' :: _ => some (d :: ds).reverse
    | _, _ => none
  | _ => none

/-- The digits of the `xN` that a text starts with, blanks around the `x` allowed. -/
def multiplier (after : List Char) : Option (List Char) :=
  match trimStart after with
  | c :: rest =>
    if c = 'x' ∨ c = 'X' then
      match (trimStart rest).takeWhile isDigit with
      | d :: ds => some (d :: ds)
      | [] => none
    else none
  | [] => none

/-- A bracket group: the text inside and the digits of its multiplier. -/
structure Group where
  inside : List Char
  digits : List Char
deriving DecidableEq, Repr

/-- The group whose bracket was just opened, when its first closing bracket has a multiplier. -/
def groupAt (opened : List Char) : Option Group :=
  match opened.dropWhile (· ≠ ']') with
  | _ :: after => (multiplier after).map (Group.mk (opened.takeWhile (· ≠ ']')))
  | [] => none

/-- The leftmost bracket group of a line. -/
def bracketGroup : List Char → Option Group
  | [] => none
  | c :: cs =>
    if c = '[' then
      match groupAt cs with
      | some group => some group
      | none => bracketGroup cs
    else bracketGroup cs

/-- What one instruction of a group leaves behind: an increase two stitches, any other one. -/
def contribution (token : List Char) : Count := if token = ['i', 'n', 'c'] then 2 else 1

/-- The instructions of a group: its comma separated pieces, trimmed, the empty ones dropped. -/
def tokens (inside : List Char) : List (List Char) :=
  ((pieces ',' inside).map trim).filter fun token => !token.isEmpty

/-- The stitches one repeat of a group leaves behind. -/
def perRepeat (inside : List Char) : Count :=
  ((tokens inside).map contribution).foldl Count.plus 0

/-- The stitches all repeats of a group leave behind. -/
def Group.total (group : Group) : Count :=
  (perRepeat group.inside).times (readCount group.digits)

end Crochet.Instruction
