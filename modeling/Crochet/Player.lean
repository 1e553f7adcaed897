/-
# Crochet.Player -- a pattern played ring by ring

A player holds a pattern, its settings and the rings built so far.  What it
does is written down as a script: what it reports, at which points it wants to
be saved as it then stands, and which rings it hands over, in order.  A script
never asks for the time or how a write ended, so playing cannot depend on
either.  Loading, resetting and restoring drop all rings; advancing builds the
next one and links it to the last.
-/
import Crochet.Settings
import Crochet.Snapshot
import Crochet.Terminology

set_option autoImplicit false

namespace Crochet

/-- A pattern being played. -/
structure Player where
  settings : Settings
  pattern : Pattern
  /-- The rings built so far, in order. -/
  rings : Array (Ring Float)

/-- A step of a script. -/
inductive Action where
  | report (event : Event)
  /-- The session is to be saved with the player as it stands; whether that works does not
  matter. -/
  | autosave (player : Player)
  /-- A ring for whoever draws it, with its position. -/
  | hand (position : Nat) (ring : Ring Float)

namespace Player

def new (settings : Settings) : Player := { settings, pattern := .empty, rings := #[] }

def cursor (p : Player) : Nat := p.rings.size

/-- Where playing stands. -/
inductive Standing where
  /-- Everything is built. -/
  | idle
  /-- The round at this position comes next. -/
  | ready (next : Nat)
deriving DecidableEq, Repr

def standing (p : Player) : Standing :=
  if p.cursor < p.pattern.length then .ready p.cursor else .idle

def withPattern (p : Player) (pattern : Pattern) : Player := { p with pattern, rings := #[] }

def progress (p : Player) (now : Timestamp) : Snapshot :=
  (Snapshot.capture p.pattern now).withCursor p.cursor

def plainRing (s : Settings) (position : Nat) (round : Round) : Ring Float :=
  Ring.build round.stitches (s.radiusFor round.stitches) (s.heightFor position) s.layout

/-- The ring of a round at a position, linked to the ring below if there is one. -/
def ringAbove (s : Settings) (below : Option (Ring Float)) (position : Nat) (round : Round) :
    Ring Float :=
  let ring := plainRing s position round
  match below with
  | some previous => Ring.linked previous ring s.crossSag s.layout.thickness
  | none => ring

/-- The next ring and the player that has it; nothing when everything is built. -/
def build? (p : Player) : Option (Ring Float × Player × List Event) :=
  match p.pattern.get? p.cursor with
  | none => none
  | some round =>
    let ring := ringAbove p.settings p.rings.back? p.cursor round
    let events := Ring.clampEvents p.settings.layout round.stitches ++
      [.ringBuilt round.index ring.width ring.links.size]
    some (ring, { p with rings := p.rings.push ring }, events)

/-- A player after something it did, with the script of it. -/
structure Played where
  player : Player
  script : List Action

/-- Plays a text from its start. -/
def load (p : Player) (text : String) (terms : Terminology) : Played :=
  let rounds := Pattern.read (terms.normalize text)
  let loaded := p.withPattern ⟨rounds.map Prod.fst⟩
  let parsed := rounds.map fun (round, rule) =>
    Action.report (.roundParsed round.index round.stitches rule)
  { player := loaded
    script := parsed ++ [.report (.patternLoaded rounds.length), .autosave loaded] }

/-- Builds the next ring; nothing when everything is built. -/
def advance? (p : Player) : Option (Ring Float × Played) :=
  match p.build? with
  | none => none
  | some (ring, player, events) =>
    some (ring, {
      player
      script := events.map Action.report ++ [.autosave player, .hand p.cursor ring] })

/-- Builds at most a number of rings. -/
def advanceUpTo : Nat → Player → Played
  | 0, p => { player := p, script := [] }
  | limit + 1, p =>
    match p.advance? with
    | none => { player := p, script := [] }
    | some (_, played) =>
      let later := advanceUpTo limit played.player
      { player := later.player, script := played.script ++ later.script }

def advanceAll (p : Player) : Played := advanceUpTo (p.pattern.length - p.cursor) p

def reset (p : Player) : Played :=
  let player := { p with rings := #[] }
  { player, script := [.autosave player] }

/-- Plays what was saved from its start, or the small ball when nothing was. -/
def restore (p : Player) (saved : Option Snapshot) : Played :=
  match saved with
  | some snapshot =>
    let player := p.withPattern snapshot.toPattern
    { player, script := [.autosave player] }
  | none =>
    let player := p.withPattern .ball
    { player, script := [.report .nothingSaved, .autosave player] }

/-- Builds at most a number of rings, without auto-saving. -/
def rebuild : Nat → Player → Played
  | 0, p => { player := p, script := [] }
  | limit + 1, p =>
    match p.build? with
    | none => { player := p, script := [] }
    | some (ring, player, events) =>
      let later := rebuild limit player
      { player := later.player
        script := events.map Action.report ++ .hand p.cursor ring :: later.script }

/-- Plays a snapshot up to where it was taken; no further than its pattern goes. -/
def recover (p : Player) (snapshot : Snapshot) : Played :=
  let pattern := snapshot.toPattern
  let wanted := min ((snapshot.cursor.map UInt64.toNat).getD 0) pattern.length
  let rebuilt := rebuild wanted (p.withPattern pattern)
  { player := rebuilt.player
    script := rebuilt.script ++ [.report (.sessionRecovered rebuilt.player.cursor)] }

end Player

end Crochet
