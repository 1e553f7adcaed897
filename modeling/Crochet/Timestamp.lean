/-
# Crochet.Timestamp -- instants of the civil calendar, in universal time

A timestamp is a date of the proleptic Gregorian calendar and a time of day
with nanoseconds.  Nanoseconds may run on for a second more, as a clock that
meets a leap second lets them: such a timestamp is written with the second
that follows, and behind second 59 that is the leap second sixty.  Year numbers
are signed and bounded.  `Date.next?` and `Date.previous?` step over month and
year ends; `text` writes a timestamp with as many decimals as it needs, in
groups of three.
-/
import Crochet.Text.Digit

set_option autoImplicit false

namespace Crochet

/-- A date. -/
structure Date where
  year : Int
  month : Nat
  day : Nat
deriving DecidableEq, Repr

namespace Date

def firstYear : Int := -262143

def lastYear : Int := 262142

def isLeap (year : Int) : Bool := year % 4 = 0 && (year % 100 ≠ 0 || year % 400 = 0)

def daysIn (year : Int) (month : Nat) : Nat :=
  if month = 2 then (if isLeap year then 29 else 28)
  else if month = 4 ∨ month = 6 ∨ month = 9 ∨ month = 11 then 30
  else 31

/-- The date exists and its year is within the bounds. -/
def IsValid (d : Date) : Prop :=
  firstYear ≤ d.year ∧ d.year ≤ lastYear ∧ 1 ≤ d.month ∧ d.month ≤ 12 ∧
    1 ≤ d.day ∧ d.day ≤ daysIn d.year d.month

instance (d : Date) : Decidable d.IsValid := by unfold IsValid; infer_instance

def checked? (d : Date) : Option Date := if d.IsValid then some d else none

/-- The day after, if the calendar has one. -/
def next? (d : Date) : Option Date :=
  if d.day < daysIn d.year d.month then some { d with day := d.day + 1 }
  else if d.month < 12 then some { d with month := d.month + 1, day := 1 }
  else checked? { year := d.year + 1, month := 1, day := 1 }

/-- The day before, if the calendar has one. -/
def previous? (d : Date) : Option Date :=
  if 1 < d.day then some { d with day := d.day - 1 }
  else if 1 < d.month then
    some { d with month := d.month - 1, day := daysIn d.year (d.month - 1) }
  else checked? { year := d.year - 1, month := 12, day := 31 }

end Date

/-- An instant in universal time. -/
@[ext]
structure Timestamp where
  date : Date
  hour : Nat
  minute : Nat
  second : Nat
  /-- From a whole second on, nanoseconds of a second that is put in behind this one. -/
  nano : Nat
  date_valid : date.IsValid
  hour_lt : hour < 24
  minute_lt : minute < 60
  second_lt : second < 60
  nano_lt : nano < 2000000000
deriving DecidableEq

namespace Timestamp

open Text

def millennium : Timestamp where
  date := { year := 2000, month := 1, day := 1 }
  hour := 0
  minute := 0
  second := 0
  nano := 0
  date_valid := by decide
  hour_lt := by decide
  minute_lt := by decide
  second_lt := by decide
  nano_lt := by decide

/-- A year: four digits, and a sign where four digits are not enough or not all. -/
def yearChars (year : Int) : List Char :=
  if 0 ≤ year ∧ year ≤ 9999 then padded 4 year.natAbs
  else (if year < 0 then '-' else '+') :: padded 4 year.natAbs

/-- The decimals of a second: none, or three, six or nine digits after a point. -/
def fractionChars (nano : Nat) : List Char :=
  if nano = 0 then []
  else if nano % 1000000 = 0 then '.' :: padded 3 (nano / 1000000)
  else if nano % 1000 = 0 then '.' :: padded 6 (nano / 1000)
  else '.' :: padded 9 nano

/-- The second a timestamp is written with: the one that follows once the nanoseconds run on. -/
def writtenSecond (t : Timestamp) : Nat :=
  if t.nano < 1000000000 then t.second else t.second + 1

/-- The nanoseconds into the second it is written with. -/
def writtenNano (t : Timestamp) : Nat :=
  if t.nano < 1000000000 then t.nano else t.nano - 1000000000

def chars (t : Timestamp) : List Char :=
  yearChars t.date.year ++ '-' :: padded 2 t.date.month ++ '-' :: padded 2 t.date.day ++
    'T' :: padded 2 t.hour ++ ':' :: padded 2 t.minute ++ ':' :: padded 2 t.writtenSecond ++
    fractionChars t.writtenNano ++ ['Z']

def text (t : Timestamp) : String := String.ofList t.chars

/-- The instant of a written date and time of day in a zone that is `offset` minutes ahead; nothing
when there is no such instant.  Only whole days can change beside the minutes, and second sixty is
kept as second 59 running on. -/
def ofLocal? (date : Date) (hour minute second nano : Nat) (offset : Int) : Option Timestamp :=
  let minutes : Int := hour * 60 + minute - offset
  let day? :=
    if minutes < 0 then date.previous?
    else if 1440 ≤ minutes then date.next?
    else some date
  let inDay := (minutes % 1440).toNat
  match day? with
  | none => none
  | some day =>
    if h : day.IsValid ∧ inDay < 1440 ∧ second ≤ 60 ∧ nano < 1000000000 then
      some {
        date := day, hour := inDay / 60, minute := inDay % 60
        second := if second = 60 then 59 else second
        nano := if second = 60 then nano + 1000000000 else nano
        date_valid := h.1
        hour_lt := by omega
        minute_lt := by omega
        second_lt := by split <;> omega
        nano_lt := by split <;> omega }
    else none

end Timestamp

end Crochet
