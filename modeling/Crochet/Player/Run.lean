/-
# Crochet.Player.Run -- players over a store

An operation is what a user asks of a player.  Running it reads what it needs
from a store, plays, and carries out the script: auto-saves are stamped with
the time and written, and one that fails is reported and forgotten.  The
outcome lists the reports, the writes that were attempted and the rings that
were handed over, each in order.
-/
import Crochet.Player
import Crochet.Store

set_option autoImplicit false

namespace Crochet.Player

/-- What a user asks of a player. -/
inductive Operation where
  | load (text : String) (terms : Terminology)
  | advance
  | advanceAll
  | reset
  | save
  | restore
  | recover
  /-- A new player on the same store. -/
  | renew (settings : Settings)

/-- What an operation answers. -/
inductive Answer where
  | done
  /-- The ring that was built, if one was left to build. -/
  | built (ring : Option (Ring Float))
  /-- How many rings were built. -/
  | count (rings : Nat)
  /-- Whether the store kept what was saved. -/
  | saved (result : Except StoreFault Unit)
  /-- Whether a snapshot was found. -/
  | found (yes : Bool)

/-- A write that was attempted. -/
structure Write where
  /-- The player as it stood. -/
  player : Player
  key : String
  snapshot : Snapshot
  result : Except StoreFault Unit

/-- What came of an operation beside its answer. -/
structure Trace where
  events : List Event
  /-- The writes that were attempted. -/
  writes : List Write
  /-- The rings that were handed over, with their positions. -/
  handed : List (Nat × Ring Float)

namespace Trace

def nothing : Trace := { events := [], writes := [], handed := [] }

/-- One thing after another. -/
def append (first second : Trace) : Trace where
  events := first.events ++ second.events
  writes := first.writes ++ second.writes
  handed := first.handed ++ second.handed

instance : Append Trace := ⟨append⟩

def reports (events : List Event) : Trace := { nothing with events }

def wrote (write : Write) : Trace := { nothing with writes := [write] }

end Trace

/-- A player after an operation, its answer, and what came of it. -/
structure Outcome where
  player : Player
  answer : Answer
  trace : Trace

variable {m : Type → Type} [Monad m]

def attempt (store : Store m) (p : Player) (key : String) (snapshot : Snapshot) : m Write := do
  let result ← store.save key snapshot
  return { player := p, key, snapshot, result }

/-- What an auto-save reports: that it failed, if it did. -/
def Write.warnings (write : Write) : List Event :=
  match write.result with
  | .ok () => []
  | .error _ => [.autosaveFailed]

def carryOut (store : Store m) (clock : m Timestamp) : Action → m Trace
  | .report event => return .reports [event]
  | .hand position ring => return { Trace.nothing with handed := [(position, ring)] }
  | .autosave p => do
    let now ← clock
    let write ← attempt store p Store.autosaveKey (p.progress now)
    return .wrote write ++ .reports write.warnings

def carryOutAll (store : Store m) (clock : m Timestamp) : List Action → m Trace
  | [] => return .nothing
  | action :: rest => do
    let first ← carryOut store clock action
    let later ← carryOutAll store clock rest
    return first ++ later

/-- Carries out what was played, after some reports. -/
def finish (store : Store m) (clock : m Timestamp) (reports : List Event) (answer : Answer)
    (played : Played) : m Outcome := do
  let trace ← carryOutAll store clock played.script
  return { player := played.player, answer, trace := .reports reports ++ trace }

def run (store : Store m) (clock : m Timestamp) (p : Player) : Operation → m Outcome
  | .load text terms => finish store clock [] .done (p.load text terms)
  | .advance =>
    match p.advance? with
    | some (ring, played) => finish store clock [] (.built (some ring)) played
    | none => return { player := p, answer := .built none, trace := .nothing }
  | .advanceAll =>
    let played := p.advanceAll
    finish store clock [] (.count (played.player.cursor - p.cursor)) played
  | .reset => finish store clock [] .done p.reset
  | .save => do
    let now ← clock
    let write ← attempt store p Store.manualKey (Snapshot.capture p.pattern now)
    return { player := p, answer := .saved write.result, trace := .wrote write }
  | .restore => do
    let (snapshot, events) ← store.load Store.manualKey
    finish store clock events (.found snapshot.isSome) (p.restore snapshot)
  | .recover => do
    match ← store.load Store.autosaveKey with
    | (some snapshot, events) => finish store clock events (.found true) (p.recover snapshot)
    | (none, events) =>
      return { player := p, answer := .found false, trace := .reports events }
  | .renew settings =>
    return { player := .new settings, answer := .done, trace := .nothing }

end Crochet.Player
