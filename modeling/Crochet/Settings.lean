/-
# Crochet.Settings -- the tunables of playback

Settings read from a document name any of the seven values and leave the
others at their defaults.  The document must be an object, and all of it is
read: a number out of range, a literal that spells no text, or nesting deeper
than the limit is refused even under an unknown key.  `check` then names the
first value that would give a broken geometry.
-/
import Crochet.Error
import Crochet.Ring

set_option autoImplicit false

namespace Crochet

/-- The tunables of playback. -/
structure Settings where
  /-- The vertical distance of two rounds. -/
  layerHeight : Float
  /-- The radius of a ring per square root of its stitch count. -/
  radiusScale : Float
  /-- The droop of the yarn between two rings. -/
  crossSag : Float
  layout : Layout
deriving Repr

namespace Settings

/-- The settings nobody has changed. -/
def usual : Settings where
  layerHeight := 0.6
  radiusScale := 0.25
  crossSag := 0.05
  layout := Layout.usual

def ownNames : List String := ["layer_height", "radius_scale", "cross_sag"]

/-- How deep a settings document may nest, itself included. -/
def depthLimit : Nat := 127

/-- The settings of an object.  A kind's name may stand around an empty object here. -/
def ofJson? (value : Json) : Option Settings :=
  match value with
  | .object members => do
    guard (value.isSound && value.depth ≤ depthLimit)
    let fields ← Json.members? members
    guard (Json.noneTwice (ownNames ++ Layout.names) fields)
    some {
      layerHeight := ← fields.optional? "layer_height" usual.layerHeight Json.float?
      radiusScale := ← fields.optional? "radius_scale" usual.radiusScale Json.float?
      crossSag := ← fields.optional? "cross_sag" usual.crossSag Json.float?
      layout := ← Layout.ofFields? Json.isNullOrEmpty fields }
  | _ => none

/-- Why settings are refused. -/
inductive Fault where
  /-- The setting must be finite and above zero. -/
  | notPositive (name : String)
  /-- The setting must be finite and not below zero. -/
  | notNonnegative (name : String)
  | noStitches
deriving DecidableEq, Repr

def Fault.reason : Fault → String
  | notPositive name => name ++ " must be finite and > 0"
  | notNonnegative name => name ++ " must be finite and >= 0"
  | noStitches => "max_stitches must be > 0"

def isPositive (x : Float) : Bool := x.isFinite && !(x ≤ 0)

def isNonnegative (x : Float) : Bool := x.isFinite && !(x < 0)

/-- What may be wrong with settings, in the order in which it is looked for. -/
def checks (s : Settings) : List (Bool × Fault) := [
  (isPositive s.layerHeight, .notPositive "layer_height"),
  (isPositive s.radiusScale, .notPositive "radius_scale"),
  (isPositive s.layout.thickness, .notPositive "yarn_thickness"),
  (isNonnegative s.crossSag, .notNonnegative "cross_sag"),
  (isNonnegative s.layout.sag, .notNonnegative "round_sag"),
  (s.layout.maxStitches != some 0, .noStitches)]

/-- The first thing that is wrong with settings. -/
def fault? (s : Settings) : Option Fault :=
  (s.checks.find? fun (holds, _) => !holds).map Prod.snd

/-- The settings, unless something is wrong with them. -/
def check (s : Settings) : Except Error Settings :=
  match s.fault? with
  | none => .ok s
  | some fault => .error (.validation fault.reason)

def ofString (text : String) : Except Error Settings :=
  match (Json.ofString? text).bind ofJson? with
  | some s => s.check
  | none => .error (.serialization "not a settings document")

/-- The radius of the ring of a count: stitches keep about the same distance. -/
def radiusFor (s : Settings) (count : Count) : Float :=
  (Float.ofNat count.toNat).sqrt * s.radiusScale

/-- The height of the round at a position, counted from zero. -/
def heightFor (s : Settings) (position : Nat) : Float :=
  Float.ofNat position * s.layerHeight

end Settings

end Crochet
