/-
# Crochet.Geometry.Scalar -- what geometry asks of a number

Curves and drawings are written over any type with the four operations, an
order, and the natural numbers.  They run on floats and can be reasoned about
over exact numbers.  Order is a test that may fail both ways, as it does for a
float that is not a number; `lesser` and `greater` then prefer the operand
that is one.
-/

set_option autoImplicit false

namespace Crochet

/-- The numbers of a geometry. -/
class Scalar (α : Type) extends Add α, Sub α, Mul α, Div α, Neg α, LE α where
  ofNat : Nat → α
  decidableLe : DecidableRel (α := α) (· ≤ ·)

namespace Scalar

variable {α : Type} [Scalar α]

instance (a b : α) : Decidable (a ≤ b) := decidableLe a b

instance (priority := low) (n : Nat) : OfNat α n := ⟨Scalar.ofNat n⟩

/-- The first number is smaller than the second. -/
def below (a b : α) : Bool := a ≤ b && !(b ≤ a)

/-- The smaller of two numbers; the other one when one compares with nothing. -/
def lesser (a b : α) : α := if a ≤ b then a else if b ≤ b then b else a

/-- The larger of two numbers; the other one when one compares with nothing. -/
def greater (a b : α) : α := if b ≤ a then a else if b ≤ b then b else a

/-- The number, or the bound it lies outside of. -/
def clamp (low high a : α) : α := if a ≤ low then low else if high ≤ a then high else a

end Scalar

instance : Scalar Float where
  ofNat := Float.ofNat
  decidableLe := inferInstance

end Crochet
