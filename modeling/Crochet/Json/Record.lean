/-
# Crochet.Json.Record -- reading values at a type

A reader turns a value into what it stands for, or refuses it.  A record may
be written as an object, with its fields in any order and unknown ones
ignored, or as an array of its fields in their declared order, which may stop
early.  Every key of an object must spell a text, and no known field may come
twice.  `choice?` reads one of several names, bare or as the only key of an
object around `null`.
-/
import Crochet.Json.Value

set_option autoImplicit false

namespace Crochet.Json

def text? : Json → Option String
  | string s => s
  | _ => none

def bool? : Json → Option Bool
  | bool b => some b
  | _ => none

def nat? (bound : Nat) : Json → Option Nat
  | number n => n.nat?.filter (· < bound)
  | _ => none

def float? : Json → Option Float
  | number n => n.float?
  | _ => none

def uint32? (value : Json) : Option UInt32 := (value.nat? UInt32.size).map UInt32.ofNat

def uint64? (value : Json) : Option UInt64 := (value.nat? UInt64.size).map UInt64.ofNat

def list? {α : Type} (item? : Json → Option α) : Json → Option (List α)
  | array items => items.mapM item?
  | _ => none

/-- `null`, or what any other value stands for. -/
def nullable? {α : Type} (value? : Json → Option α) : Json → Option (Option α)
  | null => some none
  | value => (value? value).map some

def isNull : Json → Bool
  | null => true
  | _ => false

/-- `null`, or an object without members. -/
def isNullOrEmpty : Json → Bool
  | null => true
  | object [] => true
  | _ => false

/-- One of several named alternatives: the name itself, or an object whose only member has
that key and a value that passes for nothing. -/
def choice? {α : Type} (isNothing : Json → Bool) (alternatives : List (String × α)) :
    Json → Option α
  | string (some name) => alternatives.lookup name
  | object [(some name, value)] => if isNothing value then alternatives.lookup name else none
  | _ => none

/-- The known fields of a record with their values. -/
abbrev Fields := List (String × Json)

/-- The members of an object under their keys; nothing when a key spells no text. -/
def members? (members : List (Literal × Json)) : Option Fields :=
  members.mapM fun (key, value) => key.map fun name => (name, value)

/-- No name of the list is the key of two members. -/
def noneTwice (names : List String) (fields : Fields) : Bool :=
  names.all fun name => (fields.filter fun field => field.1 == name).length ≤ 1

def record? (names : List String) : Json → Option Fields
  | object members => do
    let fields ← members? members
    guard (noneTwice names fields)
    some fields
  | array items => if items.length ≤ names.length then some (names.zip items) else none
  | _ => none

namespace Fields

/-- What a field stands for; a missing field is refused. -/
def required? {α : Type} (fields : Fields) (name : String) (value? : Json → Option α) :
    Option α :=
  (fields.lookup name).bind value?

/-- What a field stands for; a missing field stands for the default. -/
def optional? {α : Type} (fields : Fields) (name : String) (default : α)
    (value? : Json → Option α) : Option α :=
  match fields.lookup name with
  | some value => value? value
  | none => some default

end Fields

end Crochet.Json
