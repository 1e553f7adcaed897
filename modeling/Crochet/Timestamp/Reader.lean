/-
# Crochet.Timestamp.Reader -- reading timestamps generously

More is read than is written: fields without leading zeros, blanks between the
fields, a small `t` or a blank between date and time, a sign with any number
of digits for a year, offsets with or without a colon, `UTC` for the zone, any
number of decimals of which nine count.  Each reader takes what a text starts
with and gives back what follows.
-/
import Crochet.Text.Blank
import Crochet.Text.Digit
import Crochet.Timestamp

set_option autoImplicit false

namespace Crochet.Timestamp

open Text

/-- Up to `width` digits a text starts with, at least one, and what follows them. -/
def number? (width : Nat) (cs : List Char) : Option (Nat × List Char) :=
  match (cs.take width).takeWhile isAsciiDigit with
  | [] => none
  | d :: ds => some (Nat.ofDigitChars 10 (d :: ds) 0, cs.drop (ds.length + 1))

/-- A field of at most two digits between two bounds, blanks before it. -/
def field? (low high : Nat) (cs : List Char) : Option (Nat × List Char) := do
  let (value, rest) ← number? 2 (trimStart cs)
  if low ≤ value ∧ value ≤ high then some (value, rest) else none

/-- A year: up to four digits, or a sign and any number of them, blanks before it. -/
def year? (cs : List Char) : Option (Int × List Char) :=
  match trimStart cs with
  | '-' :: rest => do
    let (value, rest) ← number? rest.length rest
    some (-value, rest)
  | '+' :: rest => do
    let (value, rest) ← number? rest.length rest
    some (value, rest)
  | rest => do
    let (value, rest) ← number? 4 rest
    some (value, rest)

/-- A character that must come next, blanks before it. -/
def mark? (c : Char) (cs : List Char) : Option (List Char) :=
  match trimStart cs with
  | d :: rest => if d = c then some rest else none
  | [] => none

def date? (cs : List Char) : Option (Date × List Char) := do
  let (year, rest) ← year? cs
  let rest ← mark? '-' rest
  let (month, rest) ← field? 1 12 rest
  let rest ← mark? '-' rest
  let (day, rest) ← field? 1 31 rest
  let date ← Date.checked? { year, month, day }
  some (date, rest)

/-- What stands between date and time. -/
def separator? : List Char → Option (List Char)
  | c :: rest => if c = 'T' ∨ c = 't' ∨ c = ' ' then some rest else none
  | [] => none

/-- The nanoseconds after a point; zero when there is no point. -/
def nano? : List Char → Option (Nat × List Char)
  | '.' :: rest => do
    let (value, after) ← number? 9 rest
    let places := rest.length - after.length
    some (value * Nat.pow 10 (9 - places), after.dropWhile isAsciiDigit)
  | rest => some (0, rest)

/-- Two digits of a zone offset, not above a bound for the first of them. -/
def pair? (greatest : Char) : List Char → Option (Nat × List Char)
  | a :: b :: rest =>
    if isAsciiDigit a && isAsciiDigit b && a ≤ greatest then
      some (Nat.ofDigitChars 10 [a, b] 0, rest)
    else none
  | _ => none

/-- The sign of a zone offset; the typographic minus counts. -/
def zoneSign? : List Char → Option (Bool × List Char)
  | c :: rest =>
    if c = '+' then some (false, rest)
    else if c = '-' ∨ c = '\u2212' then some (true, rest)
    else none
  | [] => none

/-- A zone offset in minutes: hours and minutes with anything of colons and blanks between
them, less than a day in all. -/
def offset? (cs : List Char) : Option (Int × List Char) := do
  let (negative, rest) ← zoneSign? cs
  let (hours, rest) ← pair? '9' rest
  let (minutes, rest) ← pair? '5' (rest.dropWhile fun c => c == ':' || isBlank c)
  let size : Int := hours * 60 + minutes
  if size < 1440 then some (if negative then -size else size, rest) else none

/-- A zone: `UTC` or `Z` in any case, or an offset. -/
def zone? (cs : List Char) : Option (Int × List Char) :=
  if (cs.take 3).map Char.toUpper = ['U', 'T', 'C'] then some (0, cs.drop 3)
  else
    match cs with
    | c :: rest => if c = 'Z' ∨ c = 'z' then some (0, rest) else offset? (c :: rest)
    | [] => none

/-- The timestamp that is all of a text, blanks after it allowed. -/
def ofChars? (cs : List Char) : Option Timestamp := do
  let (date, rest) ← date? cs
  let rest ← separator? rest
  let (hour, rest) ← field? 0 23 rest
  let rest ← mark? ':' rest
  let (minute, rest) ← field? 0 59 rest
  let rest ← mark? ':' rest
  let (second, rest) ← field? 0 60 rest
  let (nano, rest) ← nano? rest
  let (offset, rest) ← zone? (trimStart rest)
  guard (trimStart rest).isEmpty
  ofLocal? date hour minute second nano offset

def ofString? (text : String) : Option Timestamp := ofChars? text.toList

end Crochet.Timestamp
