/-
# Crochet.Json.Literal -- what a string literal spells

A string literal is a list of code points; escapes may contribute halves of a
surrogate pair.  Two halves in order spell one character.  A half without its
partner is allowed by the syntax but spells no text, so a literal is a text or
nothing.
-/

set_option autoImplicit false

namespace Crochet.Json

/-- What a string literal spells: nothing when half a surrogate pair stands alone in it. -/
abbrev Literal := Option String

namespace Literal

/-- The first half of a surrogate pair. -/
def isHigh (u : Nat) : Bool := 0xD800 ≤ u && u ≤ 0xDBFF

/-- The second half of a surrogate pair. -/
def isLow (u : Nat) : Bool := 0xDC00 ≤ u && u ≤ 0xDFFF

/-- The character that two halves spell. -/
def joined (high low : Nat) : Char :=
  Char.ofNat (0x10000 + (high - 0xD800) * 0x400 + (low - 0xDC00))

/-- The text of code points in reverse order, followed by a text.  Read backwards, a
second half must be met first, and the first half right after it. -/
def spell (after : List Char) : List Nat → Option (List Char)
  | [] => some after
  | u :: rest =>
    if isLow u then
      match rest with
      | h :: rest => if isHigh h then spell (joined h u :: after) rest else none
      | [] => none
    else if isHigh u then none
    else spell (Char.ofNat u :: after) rest

/-- The literal of code points in reverse order. -/
def ofReversed (units : List Nat) : Literal := (spell [] units).map String.ofList

def hexDigit (n : Nat) : Char := Nat.digitChar n

/-- The escape of a control character that has no short form. -/
def hexEscape (n : Nat) : List Char :=
  ['\\', 'u', '0', '0', hexDigit (n / 16), hexDigit (n % 16)]

/-- A character inside quotes: the quote, the backslash and the control characters below
the blank are escaped, everything else stands for itself. -/
def escape (c : Char) : List Char :=
  if c = '"' then ['\\', '"']
  else if c = '\\' then ['\\', '\\']
  else if c.toNat < 0x20 then
    match c.toNat with
    | 8 => ['\\', 'b']
    | 9 => ['\\', 't']
    | 10 => ['\\', 'n']
    | 12 => ['\\', 'f']
    | 13 => ['\\', 'r']
    | n => hexEscape n
  else [c]

/-- The quoted form of a literal.  One that spells nothing is written as half a pair. -/
def quoted : Literal → List Char
  | some text => '"' :: text.toList.flatMap escape ++ ['"']
  | none => '"' :: "\\ud800".toList ++ ['"']

end Literal

end Crochet.Json
