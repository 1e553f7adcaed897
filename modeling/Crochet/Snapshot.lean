/-
# Crochet.Snapshot -- what is kept of a pattern

A snapshot keeps counts and instructions, the time it was taken, and for a
session in progress the number of rounds built.  Numbers and flags of the
rounds are not kept: `toPattern` derives them again, and does not read the
instructions anew.
-/
import Crochet.Json.Printer
import Crochet.Json.Record
import Crochet.Pattern
import Crochet.Timestamp.Reader

set_option autoImplicit false

namespace Crochet

/-- What is kept of a round. -/
structure SavedRound where
  stitches : Count
  instruction : String
deriving DecidableEq, Repr

namespace SavedRound

def toJson (r : SavedRound) : Json := .ofFields [
  ("stitches", .ofNat r.stitches.toNat),
  ("instruction", .ofText r.instruction)]

def ofJson? (value : Json) : Option SavedRound := do
  let fields ← value.record? ["stitches", "instruction"]
  some {
    stitches := ← fields.required? "stitches" Json.uint32?
    instruction := ← fields.required? "instruction" Json.text? }

end SavedRound

/-- What is kept of a pattern. -/
structure Snapshot where
  rounds : List SavedRound
  timestamp : Timestamp
  /-- The number of rounds built, for a session in progress. -/
  cursor : Option UInt64
deriving DecidableEq

namespace Snapshot

def capture (pattern : Pattern) (now : Timestamp) : Snapshot where
  rounds := pattern.rounds.map fun round => ⟨round.stitches, round.text⟩
  timestamp := now
  cursor := none

def withCursor (s : Snapshot) (cursor : Nat) : Snapshot :=
  { s with cursor := some (UInt64.ofNat cursor) }

def toPattern (s : Snapshot) : Pattern :=
  .ofCounts (s.rounds.map fun round => (round.stitches, round.instruction))

/-- The snapshot's fields; without progress there is no cursor. -/
def toJson (s : Snapshot) : Json := .ofFields <|
  [("pattern", .array (s.rounds.map SavedRound.toJson)),
    ("timestamp", .ofText s.timestamp.text)] ++
  (s.cursor.map fun cursor => ("cursor", Json.ofNat cursor.toNat)).toList

def timestamp? (value : Json) : Option Timestamp := value.text?.bind Timestamp.ofString?

/-- The snapshot of a record; the cursor may be missing. -/
def ofJson? (value : Json) : Option Snapshot := do
  let fields ← value.record? ["pattern", "timestamp", "cursor"]
  some {
    rounds := ← fields.required? "pattern" (Json.list? SavedRound.ofJson?)
    timestamp := ← fields.required? "timestamp" timestamp?
    cursor := ← fields.optional? "cursor" none (Json.nullable? Json.uint64?) }

def text (s : Snapshot) : String := s.toJson.compact

def ofString? (text : String) : Option Snapshot := (Json.ofString? text).bind ofJson?

end Snapshot

end Crochet
