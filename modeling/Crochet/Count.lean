/-
# Crochet.Count -- stitch counts

A count is a 32-bit number.  Arithmetic on counts never wraps: a result that
does not fit is the greatest count instead, which `cap` says once for all of
them.
-/

set_option autoImplicit false

namespace Crochet

/-- A number of stitches. -/
abbrev Count := UInt32

namespace Count

def greatest : Nat := 4294967295

/-- The count nearest to a number: the number itself, or the greatest count. -/
def cap (n : Nat) : Count := UInt32.ofNat (min n greatest)

def plus (a b : Count) : Count := cap (a.toNat + b.toNat)

def times (a b : Count) : Count := cap (a.toNat * b.toNat)

/-- A count grown by its half, rounded down, and capped. -/
def grown (a : Count) : Count := a.plus (a / 2)

end Count

end Crochet
