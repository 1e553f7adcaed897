/-
# Crochet.Color -- opaque yarn colors

A color has three channels of one byte.  It can be packed into a number
`0xRRGGBB`, whose higher bits are ignored, and written for a style sheet.
-/
import Crochet.Json.Record

set_option autoImplicit false

namespace Crochet

/-- An opaque color. -/
structure Color where
  red : UInt8
  green : UInt8
  blue : UInt8
deriving DecidableEq, Repr, Inhabited

namespace Color

def ofHex (rgb : UInt32) : Color where
  red := (rgb >>> 16).toUInt8
  green := (rgb >>> 8).toUInt8
  blue := rgb.toUInt8

def toHex (c : Color) : UInt32 :=
  (c.red.toUInt32 <<< 16) ||| (c.green.toUInt32 <<< 8) ||| c.blue.toUInt32

/-- The two hexadecimal digits of a channel. -/
def channel (x : UInt8) : List Char :=
  [Nat.digitChar (x.toNat / 16), Nat.digitChar (x.toNat % 16)]

def css (c : Color) : String :=
  String.ofList ('#' :: channel c.red ++ channel c.green ++ channel c.blue)

def channel? (value : Json) : Option UInt8 := (value.nat? 256).map UInt8.ofNat

/-- The color of a record with the fields `r`, `g` and `b`. -/
def ofJson? (value : Json) : Option Color := do
  let fields ← value.record? ["r", "g", "b"]
  some {
    red := ← fields.required? "r" channel?
    green := ← fields.required? "g" channel?
    blue := ← fields.required? "b" channel? }

/-- The body of a single crochet, and the yarn inside a ring. -/
def golden : Color := ofHex 0xfbbf24

/-- The body of a double crochet, and the yarn between rings. -/
def amber : Color := ofHex 0xf59e0b

def yarnTip : Color := ofHex 0xfee0a2

/-- The usual background of a drawing. -/
def paper : Color := ofHex 0xeeeeee

end Color

end Crochet
