/-
# Crochet.Pattern -- a sequence of rounds

A pattern is read from text line by line: blank lines vanish, every other line
becomes a round whose count may depend on the round before.  A pattern can
also be rebuilt from counts and texts alone, and then nothing is read again.
`Summary` adds a pattern up.
-/
import Crochet.Instruction.Resolve

set_option autoImplicit false

namespace Crochet

/-- One line of a pattern with its stitch count. -/
structure Round where
  /-- The round's number, counted from one. -/
  index : Nat
  /-- The instruction as written, without surrounding blanks. -/
  text : String
  stitches : Count
  increases : Bool
  decreases : Bool
deriving DecidableEq, Repr

/-- The round of a known count; the flags are read off the text. -/
def Round.ofText (index : Nat) (text : String) (stitches : Count) : Round where
  index := index
  text := text
  stitches := stitches
  increases := Instruction.namesIncrease text.toList
  decreases := Instruction.namesDecrease text.toList

/-- Rounds in the order in which they are worked. -/
structure Pattern where
  rounds : List Round
deriving DecidableEq, Repr

/-- What a pattern adds up to. -/
structure Summary where
  rounds : Nat
  /-- The sum of the stitch counts, in 64 bits. -/
  totalStitches : UInt64
  maxStitches : Count
  increaseRounds : Nat
  decreaseRounds : Nat
deriving DecidableEq, Repr

def Summary.add (sum : Summary) (round : Round) : Summary where
  rounds := sum.rounds + 1
  totalStitches := sum.totalStitches + round.stitches.toUInt64
  maxStitches := max sum.maxStitches round.stitches
  increaseRounds := sum.increaseRounds + round.increases.toNat
  decreaseRounds := sum.decreaseRounds + round.decreases.toNat

namespace Pattern

def empty : Pattern := ⟨[]⟩

def length (p : Pattern) : Nat := p.rounds.length

def get? (p : Pattern) (position : Nat) : Option Round := p.rounds[position]?

def counts (p : Pattern) : List Count := p.rounds.map Round.stitches

/-- The rounds of known counts and texts, numbered from `index`. -/
def roundsOf : Nat → List (Count × String) → List Round
  | _, [] => []
  | index, (count, text) :: rest => Round.ofText index text count :: roundsOf (index + 1) rest

def ofCounts (entries : List (Count × String)) : Pattern := ⟨roundsOf 1 entries⟩

/-- A small ball of five rounds, for when nothing else is at hand. -/
def ball : Pattern := ofCounts [
  (6, "6 sc in MR"),
  (12, "2 sc in each (12)"),
  (18, "[sc, inc] x6"),
  (24, "[2sc, inc] x6"),
  (30, "[3sc, inc] x6")]

/-- The lines of a text that hold an instruction, trimmed. -/
def lines (text : List Char) : List (List Char) :=
  ((Text.pieces '\n' text).map Text.trim).filter fun line => !line.isEmpty

/-- The rounds of trimmed lines, numbered from `index`, after a round of `previous`
stitches; with each round the rule that gave its count. -/
def readLines : Nat → Count → List (List Char) → List (Round × Instruction.CountRule)
  | _, _, [] => []
  | index, previous, line :: rest =>
    let resolved := Instruction.resolve line previous
    (Round.ofText index (String.ofList line) resolved.count, resolved.rule) ::
      readLines (index + 1) resolved.count rest

def read (text : String) : List (Round × Instruction.CountRule) :=
  readLines 1 Instruction.firstRound (lines text.toList)

def parse (text : String) : Pattern := ⟨(read text).map Prod.fst⟩

def summary (p : Pattern) : Summary := p.rounds.foldl Summary.add ⟨0, 0, 0, 0, 0⟩

end Pattern

end Crochet
