/-
# Crochet.Text.Digit -- decimal digits of every script, and runs of them

A digit is a character of Unicode's general category Nd.  Such digits come in
blocks of ten, so the table lists the zeros.  `digitRuns` cuts a line into its
maximal runs; `isAsciiDigit` is the narrower class that a number is read from
and written in.
-/

set_option autoImplicit false

namespace Crochet.Text

/-- The code points of the zeros: a script's ten digits follow one another. -/
def zeros : List Nat := [
  0x30, 0x660, 0x6F0, 0x7C0, 0x966, 0x9E6, 0xA66, 0xAE6, 0xB66, 0xBE6, 0xC66, 0xCE6, 0xD66,
  0xDE6, 0xE50, 0xED0, 0xF20, 0x1040, 0x1090, 0x17E0, 0x1810, 0x1946, 0x19D0, 0x1A80,
  0x1A90, 0x1B50, 0x1BB0, 0x1C40, 0x1C50, 0xA620, 0xA8D0, 0xA900, 0xA9D0, 0xA9F0, 0xAA50,
  0xABF0, 0xFF10, 0x104A0, 0x10D30, 0x10D40, 0x11066, 0x110F0, 0x11136, 0x111D0, 0x112F0,
  0x11450, 0x114D0, 0x11650, 0x116C0, 0x116D0, 0x116DA, 0x11730, 0x118E0, 0x11950, 0x11BF0,
  0x11C50, 0x11D50, 0x11DA0, 0x11F50, 0x16130, 0x16A60, 0x16AC0, 0x16B50, 0x16D70, 0x1CCF0,
  0x1D7CE, 0x1D7D8, 0x1D7E2, 0x1D7EC, 0x1D7F6, 0x1E140, 0x1E2F0, 0x1E4F0, 0x1E5F1, 0x1E950,
  0x1FBF0]

def isAsciiDigit (c : Char) : Bool := '0' ≤ c && c ≤ '9'

/-- A decimal digit of any script. -/
def isDigit (c : Char) : Bool :=
  isAsciiDigit c || (0x80 ≤ c.toNat && zeros.any fun z => z ≤ c.toNat && c.toNat < z + 10)

/-- The maximal digit runs of a text whose last few characters, newest first, were
the digits `run`. -/
def digitRunsFrom (run : List Char) : List Char → List (List Char)
  | [] => if run.isEmpty then [] else [run.reverse]
  | c :: cs =>
    if isDigit c then digitRunsFrom (c :: run) cs
    else if run.isEmpty then digitRunsFrom [] cs
    else run.reverse :: digitRunsFrom [] cs

/-- The maximal digit runs of a text, from left to right. -/
def digitRuns (cs : List Char) : List (List Char) := digitRunsFrom [] cs

/-- The number an ASCII digit run spells; any other text spells none. -/
def decimalValue? (digits : List Char) : Option Nat :=
  if digits.isEmpty || !digits.all isAsciiDigit then none
  else some (Nat.ofDigitChars 10 digits 0)

/-- The ASCII digits of a number, with zeros in front up to a width. -/
def padded (width n : Nat) : List Char :=
  let digits := Nat.toDigits 10 n
  List.replicate (width - digits.length) '0' ++ digits

end Crochet.Text
