/-
# Crochet.Journal -- what a run reports while it goes on

An event names something that happened; its level, message and fields are read
off it.
-/
import Crochet.Instruction.Resolve

set_option autoImplicit false

namespace Crochet

/-- Something worth reporting. -/
inductive Event where
  | roundParsed (round : Nat) (stitches : Count) (rule : Instruction.CountRule)
  | patternLoaded (rounds : Nat)
  | ringBuilt (round stitches links : Nat)
  | ringClamped (stitches limit : Count)
  | autosaveFailed
  | nothingSaved
  | sessionRecovered (rounds : Nat)
  | noSnapshot (key : String)
  | snapshotUnreadable (key : String)
  | snapshotCorrupt (key : String)
deriving DecidableEq, Repr

namespace Event

/-- How much an event matters. -/
inductive Level where
  | debug
  | info
  | warn
deriving DecidableEq, Repr

def Level.name : Level → String
  | debug => "DEBUG"
  | info => "INFO"
  | warn => "WARN"

/-- How much the event matters. -/
def level : Event → Level
  | roundParsed .. | ringBuilt .. | noSnapshot _ => .debug
  | patternLoaded _ | nothingSaved | sessionRecovered _ => .info
  | ringClamped .. | autosaveFailed | snapshotUnreadable _ | snapshotCorrupt _ => .warn

def message : Event → String
  | roundParsed .. => "parsed round"
  | patternLoaded _ => "pattern loaded"
  | ringBuilt .. => "round built"
  | ringClamped .. => "round too wide, clamping layout"
  | autosaveFailed => "auto-save failed"
  | nothingSaved => "no saved pattern, using default"
  | sessionRecovered _ => "session recovered"
  | noSnapshot _ => "no snapshot stored"
  | snapshotUnreadable _ => "snapshot unreadable, ignoring"
  | snapshotCorrupt _ => "snapshot corrupt, ignoring"

def fields : Event → List (String × String)
  | roundParsed round stitches rule =>
    [("round", round.repr), ("stitches", stitches.toNat.repr), ("rule", rule.name)]
  | patternLoaded rounds => [("rounds", rounds.repr)]
  | ringBuilt round stitches links =>
    [("round", round.repr), ("stitches", stitches.repr), ("links", links.repr)]
  | ringClamped stitches limit =>
    [("stitch_count", stitches.toNat.repr), ("max", limit.toNat.repr)]
  | autosaveFailed | nothingSaved => []
  | sessionRecovered rounds => [("rounds", rounds.repr)]
  | noSnapshot key | snapshotUnreadable key | snapshotCorrupt key => [("key", key)]

end Event

end Crochet
