/-
# Crochet.Store -- where snapshots are kept

A store writes and reads texts under keys, inside whatever it needs to do so.
Either may fail.  Two keys are in use: one for what the user saves, one for
the session in progress.  `load` treats everything that is not a readable
snapshot as absent, and says why.
-/
import Crochet.Error
import Crochet.Journal
import Crochet.Snapshot

set_option autoImplicit false

namespace Crochet

/-- Why a store fails. -/
inductive StoreFault where
  | invalidKey (key : String)
  | failed (reason : String)
deriving DecidableEq, Repr

def StoreFault.reason : StoreFault → String
  | invalidKey key => "invalid snapshot key '" ++ key ++ "'"
  | failed reason => reason

def StoreFault.toError (fault : StoreFault) : Error := .persistence fault.reason

/-- A place that keeps texts under keys. -/
structure Store (m : Type → Type) where
  /-- Keeps a text under a key, in place of any other. -/
  write (key text : String) : m (Except StoreFault Unit)
  read (key : String) : m (Except StoreFault (Option String))

namespace Store

/-- The key of what the user saves. -/
def manualKey : String := "crochet-pattern"

/-- The key of the session in progress. -/
def autosaveKey : String := "crochet-autosave"

/-- What a read gave, as a snapshot if it is one, and what there is to say about it. -/
def decode (key : String) : Except StoreFault (Option String) → Option Snapshot × List Event
  | .ok none => (none, [.noSnapshot key])
  | .error _ => (none, [.snapshotUnreadable key])
  | .ok (some text) =>
    match Snapshot.ofString? text with
    | some snapshot => (some snapshot, [])
    | none => (none, [.snapshotCorrupt key])

variable {m : Type → Type} [Monad m]

def forgetful : Store m where
  write _ _ := return .ok ()
  read _ := return .ok none

def load (store : Store m) (key : String) : m (Option Snapshot × List Event) := do
  return decode key (← store.read key)

def save (store : Store m) (key : String) (snapshot : Snapshot) : m (Except StoreFault Unit) :=
  store.write key snapshot.text

end Store

end Crochet
