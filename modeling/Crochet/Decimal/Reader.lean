/-
# Crochet.Decimal.Reader -- reading floats generously

A float may be written with a sign, without digits on one side of its point,
with an exponent, or as one of the words for what is not a number or not
finite, in any case.  The nearest float is taken.
-/
import Crochet.Text.Digit

set_option autoImplicit false

namespace Crochet.Decimal

def signed : List Char → Bool × List Char
  | '-' :: rest => (true, rest)
  | '+' :: rest => (false, rest)
  | rest => (false, rest)

/-- The exponent that is all of a text; zero for the empty text. -/
def exponent? : List Char → Option Int
  | [] => some 0
  | c :: cs =>
    if c = 'e' ∨ c = 'E' then
      let (negative, digits) := signed cs
      (Text.decimalValue? digits).map fun n => if negative then -(n : Int) else n
    else none

def scaled (digits : Nat) (ten : Int) : Float :=
  if digits = 0 then 0 else Float.ofScientific digits (ten < 0) ten.natAbs

/-- The digits of a number and the power of ten that scales them. -/
def number? (cs : List Char) : Option (Nat × Int) := do
  let whole := cs.takeWhile Text.isAsciiDigit
  let rest := cs.dropWhile Text.isAsciiDigit
  let (fraction, rest) := match rest with
    | '.' :: after => (after.takeWhile Text.isAsciiDigit, after.dropWhile Text.isAsciiDigit)
    | other => ([], other)
  guard (!(whole ++ fraction).isEmpty)
  let exponent ← exponent? rest
  some (Nat.ofDigitChars 10 (whole ++ fraction) 0, exponent - fraction.length)

def unsigned? (cs : List Char) : Option Float :=
  let word := cs.map Char.toLower
  if word = "inf".toList ∨ word = "infinity".toList then some (1 / 0)
  else if word = "nan".toList then some (0 / 0)
  else (number? cs).map fun (digits, ten) => scaled digits ten

def float? (text : String) : Option Float :=
  let (negative, rest) := signed text.toList
  (unsigned? rest).map fun x => if negative then -x else x

end Crochet.Decimal
