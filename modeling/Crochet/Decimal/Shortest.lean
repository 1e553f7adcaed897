/-
# Crochet.Decimal.Shortest -- the shortest decimal that reads back

Among the decimals that round to a given float, `shortestChars` writes the one
with the fewest digits, and of those the nearest.  For a growing number of
digits it looks at the two neighbours of the float on the decimal grid, in
exact arithmetic; the first grid with a neighbour in the float's rounding
interval is taken.  The result is always written out, never with an exponent.
-/
import Crochet.Decimal.Binary

set_option autoImplicit false

namespace Crochet.Decimal

/-- A positive float with its rounding interval, all in quarters of a unit of two to the
exponent.  The ends belong to the interval when the mantissa is even. -/
structure Interval where
  low : Nat
  mid : Nat
  high : Nat
  closed : Bool
  exponent : Int
deriving Repr

namespace Interval

/-- The interval of a mantissa.  Just above a power of two the lower neighbour is nearer. -/
def ofParts (mantissa : Nat) (exponent : Int) : Interval where
  low := if mantissa = Binary.leadingBit ∧ exponent ≠ Binary.leastExponent then 4 * mantissa - 1
    else 4 * mantissa - 2
  mid := 4 * mantissa
  high := 4 * mantissa + 2
  closed := mantissa % 2 = 0
  exponent := exponent - 2

/-- A decimal on the grid of a power of ten lies in the interval. -/
def contains (i : Interval) (digits : Nat) (ten : Int) : Bool :=
  let (low, scale) := ratio i.low i.exponent (-ten)
  let (high, _) := ratio i.high i.exponent (-ten)
  if i.closed then low ≤ digits * scale && digits * scale ≤ high
  else low < digits * scale && digits * scale < high

/-- The point of the grid of a power of ten that is nearest to the float among its
neighbours inside the interval; a tie goes up. -/
def nearest? (i : Interval) (ten : Int) : Option Nat :=
  let (mid, scale) := ratio i.mid i.exponent (-ten)
  let below := mid / scale
  let lowerIn := i.contains below ten
  let upperIn := i.contains (below + 1) ten
  if lowerIn && upperIn then
    some (if 2 * (mid % scale) < scale then below else below + 1)
  else if lowerIn then some below
  else if upperIn then some (below + 1)
  else none

/-- The power of ten of the float's first digit. -/
def magnitude (i : Interval) : Int :=
  let estimate := ((i.mid.log2 : Int) + i.exponent) * 30103 / 100000
  let (mid, scale) := ratio i.mid i.exponent (-(estimate + 1))
  if scale ≤ mid then estimate + 1
  else
    let (mid, scale) := ratio i.mid i.exponent (-estimate)
    if scale ≤ mid then estimate else estimate - 1

/-- The float's neighbour with `count` digits, and the power of ten that scales it.  The
neighbour may be the power of ten above, which one digit writes. -/
def withDigits? (i : Interval) (magnitude : Int) (count : Nat) : Option (Nat × Int) :=
  let ten := magnitude + 1 - count
  (i.nearest? ten).map fun digits =>
    if digits = Nat.pow 10 count then (1, ten + count) else (digits, ten)

/-- The fewest digits and the power of ten that scales them; seventeen always suffice. -/
def digits (i : Interval) : Nat × Int :=
  let magnitude := i.magnitude
  ((List.range 17).findSome? fun n => i.withDigits? magnitude (n + 1)).getD (i.mid, i.exponent)

end Interval

def writtenOut (digits : Nat) (ten : Int) : List Char :=
  let chars := Nat.toDigits 10 digits
  if 0 ≤ ten then chars ++ List.replicate ten.toNat '0'
  else
    let places := (-ten).toNat
    if places < chars.length then
      chars.take (chars.length - places) ++ '.' :: chars.drop (chars.length - places)
    else '0' :: '.' :: List.replicate (places - chars.length) '0' ++ chars

def shortestChars (x : Float) : List Char :=
  match Binary.ofFloat x with
  | .nan => "NaN".toList
  | .infinite negative => signChars negative ++ "inf".toList
  | .finite negative 0 _ => signChars negative ++ ['0']
  | .finite negative mantissa exponent =>
    let (digits, ten) := (Interval.ofParts mantissa exponent).digits
    signChars negative ++ writtenOut digits ten

end Crochet.Decimal
