/-
# Crochet.Instruction.Resolve -- the stitch count of a line

Six rules are tried in order: a stated total, a bracket group, a magic ring,
an increase, the last number, and at the end the count of the line before.
`resolve` reports the rule beside the count, so no line is refused.
-/
import Crochet.Instruction.Notation

set_option autoImplicit false

namespace Crochet.Instruction

open Text

/-- Which rule gave a line its count. -/
inductive CountRule where
  /-- A trailing `(N)`. -/
  | stated
  /-- A bracket group times its multiplier. -/
  | bracketRepeat
  /-- A magic ring line: its first number, or six. -/
  | magicRing
  /-- An increase with no total: the count before, grown by half. -/
  | growth
  /-- The last number of the line. -/
  | lastNumber
  /-- Nothing recognised: the count before. -/
  | carried
deriving DecidableEq, Repr, Inhabited

/-- The rule's name in journals and reports. -/
def CountRule.name : CountRule → String
  | .stated => "Stated"
  | .bracketRepeat => "BracketRepeat"
  | .magicRing => "MagicRing"
  | .growth => "Growth"
  | .lastNumber => "LastNumber"
  | .carried => "Carried"

/-- A count and the rule that gave it. -/
structure Resolved where
  count : Count
  rule : CountRule
deriving DecidableEq, Repr

/-- The count assumed before the first line: the usual magic ring. -/
def firstRound : Count := 6

def namesMagicRing (line : List Char) : Bool :=
  occurs ['M', 'R'] line || occurs "magic ring".toList line

def namesIncrease (line : List Char) : Bool := occurs ['i', 'n', 'c'] line

def namesDecrease (line : List Char) : Bool := occurs ['d', 'e', 'c'] line

/-- The rules for a line with neither a stated total nor a bracket group. -/
def resolvePlain (line : List Char) (previous : Count) : Resolved :=
  let runs := digitRuns line
  if namesMagicRing line then
    { count := (runs.head?.map readCount).getD firstRound, rule := .magicRing }
  else if namesIncrease line then
    { count := previous.grown, rule := .growth }
  else
    match runs.getLast? with
    | some digits => { count := readCount digits, rule := .lastNumber }
    | none => { count := previous, rule := .carried }

/-- The count of a line after a round of `previous` stitches. -/
def resolve (line : List Char) (previous : Count) : Resolved :=
  match statedTotal line with
  | some digits => { count := readCount digits, rule := .stated }
  | none =>
    match bracketGroup line with
    | some group => { count := group.total, rule := .bracketRepeat }
    | none => resolvePlain line previous

end Crochet.Instruction
