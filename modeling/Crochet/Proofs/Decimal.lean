/-
# Crochet.Proofs.Decimal -- what decimals are written with

A float is written with letters, digits, the point and the minus sign, whether
in its shortest decimals or with a fixed number of them.  So a decimal ends
wherever a text goes on with something else.
-/
import Crochet.Decimal.Fixed
import Crochet.Decimal.Shortest
import Crochet.Proofs.Text.Digits

set_option autoImplicit false

namespace Crochet.Decimal

/-- The characters that decimals are written with. -/
def isNumeral (c : Char) : Bool := c.isAlphanum || c == '-' || c == '.'

/-- The text is written like a decimal. -/
def Numeral (cs : List Char) : Prop := ∀ c ∈ cs, isNumeral c = true

instance (cs : List Char) : Decidable (Numeral cs) :=
  decidable_of_iff (cs.all isNumeral = true) List.all_eq_true

theorem Numeral.append {front back : List Char} (first : Numeral front) (second : Numeral back) :
    Numeral (front ++ back) := by
  intro c inside
  exact (List.mem_append.mp inside).elim (first c) (second c)

theorem Numeral.cons {c : Char} {cs : List Char} (first : isNumeral c = true) (rest : Numeral cs) :
    Numeral (c :: cs) := List.forall_mem_cons.mpr ⟨first, rest⟩

theorem Numeral.of_subset {cs ds : List Char} (numeral : Numeral ds) (part : cs ⊆ ds) :
    Numeral cs := fun c inside => numeral c (part inside)

/-- What no decimal holds. -/
theorem Numeral.not_mem {cs : List Char} (numeral : Numeral cs) {c : Char}
    (other : isNumeral c = false) : c ∉ cs := by
  intro inside
  rw [numeral c inside] at other
  cases other

theorem isNumeral_of_isAsciiDigit {c : Char} (digit : Text.isAsciiDigit c = true) :
    isNumeral c = true := by
  rw [Text.isAsciiDigit_eq] at digit
  simp [isNumeral, Char.isAlphanum, digit]

theorem numeral_toDigits (n : Nat) : Numeral (Nat.toDigits 10 n) :=
  fun _ inside => isNumeral_of_isAsciiDigit (Text.isAsciiDigit_of_mem_toDigits inside)

theorem numeral_padded (width n : Nat) : Numeral (Text.padded width n) :=
  fun _ inside => isNumeral_of_isAsciiDigit (Text.padded_digits width n inside)

theorem numeral_zeros (n : Nat) : Numeral (List.replicate n '0') := by
  intro c inside
  rw [(List.mem_replicate.mp inside).2]
  rfl

theorem numeral_sign (negative : Bool) : Numeral (signChars negative) := by
  cases negative <;> simp [signChars, Numeral, isNumeral]

theorem numeral_writtenOut (digits : Nat) (ten : Int) : Numeral (writtenOut digits ten) := by
  have all := numeral_toDigits digits
  simp only [writtenOut]
  split_ifs
  · exact all.append (numeral_zeros _)
  · exact (all.of_subset (List.take_subset _ _)).append
      (.cons rfl (all.of_subset (List.drop_subset _ _)))
  · exact .cons rfl (.cons rfl ((numeral_zeros _).append all))

theorem numeral_shortestChars (x : Float) : Numeral (shortestChars x) := by
  unfold shortestChars
  split
  · decide
  · exact (numeral_sign _).append (by decide)
  · exact (numeral_sign _).append (by decide)
  · exact (numeral_sign _).append (numeral_writtenOut _ _)

theorem numeral_pointed (places units : Nat) : Numeral (pointed places units) := by
  simp only [pointed]
  split_ifs
  · exact numeral_toDigits _
  · exact (numeral_toDigits _).append (.cons rfl (numeral_padded _ _))

theorem numeral_fixedChars (places : Nat) (x : Float) : Numeral (fixedChars places x) := by
  unfold fixedChars
  split
  · decide
  · exact (numeral_sign _).append (by decide)
  · exact (numeral_sign _).append (numeral_pointed _ _)

theorem dropEndWhile_subset (test : Char → Bool) (cs : List Char) :
    Text.dropEndWhile test cs ⊆ cs := by
  intro c inside
  exact List.mem_reverse.mp (List.dropWhile_subset test (List.mem_reverse.mp inside))

theorem Numeral.compact {cs : List Char} (numeral : Numeral cs) : Numeral (compact cs) :=
  (numeral.of_subset (dropEndWhile_subset _ _)).of_subset (dropEndWhile_subset _ _)

end Crochet.Decimal
