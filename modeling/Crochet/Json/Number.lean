/-
# Crochet.Json.Number -- number literals and the values they are read at

A number keeps the shape it was written in, because the shape decides what it
can be read as: only a plain run of digits is a natural number, and every
literal is a float.  A literal's float is one product or quotient: its
significand, cut where it no longer fits 64 bits, times or over a power of
ten.
-/
import Crochet.Text.Digit

set_option autoImplicit false

namespace Crochet.Json

/-- A number literal. -/
structure Number where
  /-- A minus sign stands in front. -/
  negative : Bool
  whole : Nat
  /-- The digits after the point; none when there is no point. -/
  fraction : List Char
  exponent : Option Int
deriving DecidableEq, Repr

namespace Number

def ofNat (n : Nat) : Number := { negative := false, whole := n, fraction := [], exponent := none }

/-- The digits a text starts with and what follows them; nothing when there is no digit. -/
def digits? (cs : List Char) : Option (List Char × List Char) :=
  match cs.takeWhile Text.isAsciiDigit with
  | [] => none
  | d :: ds => some (d :: ds, cs.dropWhile Text.isAsciiDigit)

/-- The exponent's sign, and what follows it. -/
def sign : List Char → Bool × List Char
  | '-' :: rest => (true, rest)
  | '+' :: rest => (false, rest)
  | rest => (false, rest)

/-- The exponent that is all of a text; `some none` for the empty text. -/
def exponent? : List Char → Option (Option Int)
  | [] => some none
  | c :: cs =>
    if c = 'e' ∨ c = 'E' then
      let (negative, unsigned) := sign cs
      match digits? unsigned with
      | some (ds, []) =>
        let size : Int := Nat.ofDigitChars 10 ds 0
        some (some (if negative then -size else size))
      | _ => none
    else none

/-- The digits after a point, and what follows them; no digits when there is no point. -/
def fraction? : List Char → Option (List Char × List Char)
  | '.' :: rest => digits? rest
  | rest => some ([], rest)

/-- A number that starts with zero has no other digit before its point. -/
def noLeadingZero : List Char → Bool
  | '0' :: _ :: _ => false
  | _ => true

/-- The literal whose sign was read and whose digits follow. -/
def unsigned? (negative : Bool) (cs : List Char) : Option Number := do
  let (whole, rest) ← digits? cs
  guard (noLeadingZero whole)
  let (fraction, rest) ← fraction? rest
  let exponent ← exponent? rest
  some { negative, whole := Nat.ofDigitChars 10 whole 0, fraction, exponent }

def ofChars? : List Char → Option Number
  | '-' :: rest => unsigned? true rest
  | rest => unsigned? false rest

def chars (n : Number) : List Char :=
  (if n.negative then ['-'] else []) ++ Nat.toDigits 10 n.whole ++
    (if n.fraction.isEmpty then [] else '.' :: n.fraction) ++
    match n.exponent with
    | none => []
    | some e => 'e' :: (if e < 0 then ['-'] else []) ++ Nat.toDigits 10 e.natAbs

/-- The natural number a plain literal stands for. -/
def nat? (n : Number) : Option Nat :=
  if n.negative || !n.fraction.isEmpty || n.exponent.isSome then none else some n.whole

/-- A significand under construction: the digits that fitted, the power of ten that is
still missing, and whether a digit was left out. -/
structure Significand where
  value : Nat
  scale : Int
  full : Bool

/-- The significand with one more digit, if it fits 64 bits. -/
def Significand.digit? (s : Significand) (c : Char) : Option Nat :=
  let next := s.value * 10 + (c.toNat - '0'.toNat)
  if s.full || UInt64.size ≤ next then none else some next

/-- A digit before the point: left out, it still multiplies by ten. -/
def Significand.addWhole (s : Significand) (c : Char) : Significand :=
  match s.digit? c with
  | some next => { s with value := next }
  | none => { s with scale := s.scale + 1, full := true }

/-- A digit after the point: left out, it changes nothing. -/
def Significand.addFraction (s : Significand) (c : Char) : Significand :=
  match s.digit? c with
  | some next => { s with value := next, scale := s.scale - 1 }
  | none => { s with full := true }

/-- The significand of a literal, and the power of ten it is scaled by. -/
def significand (n : Number) : Nat × Int :=
  let whole := (Nat.toDigits 10 n.whole).foldl Significand.addWhole ⟨0, 0, false⟩
  let all := n.fraction.foldl Significand.addFraction { whole with full := false }
  (all.value, all.scale + n.exponent.getD 0)

/-- A power of ten, rounded to the nearest float. -/
def power (e : Nat) : Float := Float.ofScientific 1 false e

/-- A significand scaled by a power of ten; nothing when the result is not finite.  Below
`-308` the scaling takes two steps, and below `-616` nothing is left. -/
def scaled? (value : Nat) (scale : Int) : Option Float :=
  let x := (UInt64.ofNat value).toFloat
  if 0 ≤ scale then
    if scale ≤ 308 then
      let y := x * power scale.toNat
      if y.isInf then none else some y
    else if value = 0 then some 0
    else none
  else
    let e := (-scale).toNat
    if e ≤ 308 then some (x / power e)
    else if e ≤ 616 then some (x / power 308 / power (e - 308))
    else some 0

/-- The float a literal is read at; nothing when it is out of range. -/
def float? (n : Number) : Option Float :=
  let (value, scale) := n.significand
  (scaled? value scale).map fun x => if n.negative then -x else x

end Number

end Crochet.Json
