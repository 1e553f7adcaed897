/-
# Crochet.Decimal.Binary -- a float taken apart

A finite float is a sign and a whole number times a power of two.  Everything
that writes floats starts from these exact parts.
-/

set_option autoImplicit false

namespace Crochet.Decimal

/-- What a float is. -/
inductive Binary where
  | nan
  | infinite (negative : Bool)
  /-- The mantissa times two to the exponent. -/
  | finite (negative : Bool) (mantissa : Nat) (exponent : Int)
deriving DecidableEq, Repr

namespace Binary

def leastExponent : Int := -1074

/-- The weight of the bit that a normal mantissa starts with. -/
def leadingBit : Nat := Nat.pow 2 52

def ofFloat (x : Float) : Binary :=
  let bits := x.toBits.toNat
  let negative := Nat.pow 2 63 ≤ bits
  let biased := bits / leadingBit % 2048
  let tail := bits % leadingBit
  if biased = 2047 then (if tail = 0 then .infinite negative else .nan)
  else if biased = 0 then .finite negative tail leastExponent
  else .finite negative (leadingBit + tail) (leastExponent + (biased - 1))

end Binary

/-- The quotient rounded to the nearest whole number, halfway cases to the even one. -/
def roundHalfEven (numerator denominator : Nat) : Nat :=
  let quotient := numerator / denominator
  let twice := 2 * (numerator % denominator)
  if twice < denominator then quotient
  else if denominator < twice then quotient + 1
  else quotient + quotient % 2

/-- A mantissa times a power of two times a power of ten, as a quotient. -/
def ratio (mantissa : Nat) (exponent ten : Int) : Nat × Nat :=
  (mantissa * Nat.pow 2 exponent.toNat * Nat.pow 10 ten.toNat,
    Nat.pow 2 (-exponent).toNat * Nat.pow 10 (-ten).toNat)

def signChars (negative : Bool) : List Char := if negative then ['-'] else []

end Crochet.Decimal
