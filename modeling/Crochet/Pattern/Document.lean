/-
# Crochet.Pattern.Document -- patterns as JSON documents

The document holds every round in full and a summary beside them.  Reading
takes the rounds as they stand, flags included, ignores the summary, and
insists that the rounds are numbered one, two, three and so on.
-/
import Crochet.Error
import Crochet.Json.Printer
import Crochet.Json.Record
import Crochet.Pattern

set_option autoImplicit false

namespace Crochet

namespace Summary

def toJson (s : Summary) : Json := .ofFields [
  ("rounds", .ofNat s.rounds),
  ("total_stitches", .ofNat s.totalStitches.toNat),
  ("max_stitches", .ofNat s.maxStitches.toNat),
  ("increase_rounds", .ofNat s.increaseRounds),
  ("decrease_rounds", .ofNat s.decreaseRounds)]

end Summary

namespace Round

/-- The names of a round's fields. -/
def names : List String :=
  ["index", "source_text", "stitch_count", "has_increase", "has_decrease"]

def toJson (r : Round) : Json := .ofFields [
  ("index", .ofNat r.index),
  ("source_text", .ofText r.text),
  ("stitch_count", .ofNat r.stitches.toNat),
  ("has_increase", .bool r.increases),
  ("has_decrease", .bool r.decreases)]

def ofJson? (value : Json) : Option Round := do
  let fields ← value.record? names
  some {
    index := ← fields.required? "index" (Json.nat? UInt64.size)
    text := ← fields.required? "source_text" Json.text?
    stitches := ← fields.required? "stitch_count" Json.uint32?
    increases := ← fields.required? "has_increase" Json.bool?
    decreases := ← fields.required? "has_decrease" Json.bool? }

end Round

namespace Pattern

def toJson (p : Pattern) : Json := .ofFields [
  ("summary", p.summary.toJson),
  ("rounds", .array (p.rounds.map Round.toJson))]

/-- The pattern of a record, however its rounds are numbered. -/
def ofJson? (value : Json) : Option Pattern := do
  let fields ← value.record? ["rounds"]
  let rounds ← fields.required? "rounds" (Json.list? Round.ofJson?)
  some ⟨rounds⟩

def toDocument (p : Pattern) : String := p.toJson.indented

/-- A round that is not numbered by its position. -/
structure Misnumbered where
  position : Nat
  index : Nat
deriving DecidableEq, Repr

def Misnumbered.reason (m : Misnumbered) : String :=
  "round at position " ++ m.position.repr ++ " has index " ++ m.index.repr ++
    " (expected " ++ (m.position + 1).repr ++ ")"

/-- The first round, from a position on, that is not numbered by its position. -/
def misnumberedFrom (position : Nat) : List Round → Option Misnumbered
  | [] => none
  | round :: rest =>
    if round.index = position + 1 then misnumberedFrom (position + 1) rest
    else some { position, index := round.index }

def ofDocument (text : String) : Except Error Pattern :=
  match (Json.ofString? text).bind ofJson? with
  | none => .error (.serialization "not a pattern document")
  | some pattern =>
    match misnumberedFrom 0 pattern.rounds with
    | some misnumbered => .error (.validation misnumbered.reason)
    | none => .ok pattern

end Pattern

end Crochet
