/-
# Crochet.Decimal.Fixed -- floats with a fixed number of decimals

`fixed` rounds the exact value, halfway cases to the even neighbour, and keeps
the sign even of a result that is zero.  `compact` then drops the zeros that a
number does not need, and the point if nothing follows it.
-/
import Crochet.Decimal.Binary
import Crochet.Text.Blank
import Crochet.Text.Digit

set_option autoImplicit false

namespace Crochet.Decimal

/-- A number of units of the last decimal, written with its point. -/
def pointed (places units : Nat) : List Char :=
  let whole := Nat.toDigits 10 (units / Nat.pow 10 places)
  if places = 0 then whole else whole ++ '.' :: Text.padded places (units % Nat.pow 10 places)

def fixedChars (places : Nat) (x : Float) : List Char :=
  match Binary.ofFloat x with
  | .nan => "NaN".toList
  | .infinite negative => signChars negative ++ "inf".toList
  | .finite negative mantissa exponent =>
    let (numerator, denominator) := ratio mantissa exponent places
    signChars negative ++ pointed places (roundHalfEven numerator denominator)

def fixed (places : Nat) (x : Float) : String := String.ofList (fixedChars places x)

/-- The text without the zeros at its end, and without the point that may then end it. -/
def compact (text : List Char) : List Char :=
  Text.dropEndWhile (· == '.') (Text.dropEndWhile (· == '0') text)

end Crochet.Decimal
