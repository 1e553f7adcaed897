/-
# Crochet.Json.Value -- JSON values and how they are read from tokens

A value keeps what its text says and no more: numbers keep their shape, and a
string literal may spell nothing.  So reading a text checks its syntax alone,
and what a value may be used for is asked later.  Reading folds a pushdown
machine over the tokens: a stack of unfinished arrays and objects, and what
may come next.  It has no depth limit; `depth` measures one where a reader
wants it.
-/
import Crochet.Json.Token

set_option autoImplicit false

namespace Crochet

/-- A JSON value. -/
inductive Json where
  | null
  | bool (b : Bool)
  | number (n : Json.Number)
  | string (s : Json.Literal)
  | array (items : List Json)
  | object (members : List (Json.Literal × Json))
deriving Repr, Inhabited

namespace Json

/-- An unfinished array or object, its finished parts newest first. -/
inductive Frame where
  /-- An array that waits for an item. -/
  | item (items : List Json)
  /-- An object that waits for the value of a key. -/
  | member (members : List (Literal × Json)) (key : Literal)
deriving Repr

/-- What may come next. -/
inductive Awaiting where
  /-- A value. -/
  | value (stack : List Frame)
  /-- The first item of an array, or its end. -/
  | firstItem (stack : List Frame)
  /-- The first key of an object, or its end. -/
  | firstKey (stack : List Frame)
  /-- A further key of an object. -/
  | key (members : List (Literal × Json)) (stack : List Frame)
  /-- The colon after a key. -/
  | colon (members : List (Literal × Json)) (key : Literal) (stack : List Frame)
  /-- A comma or an end after a value, or the end of the text. -/
  | after (value : Json) (stack : List Frame)
deriving Repr

def valueToken? (stack : List Frame) : Token → Option Awaiting
  | .null => some (.after .null stack)
  | .bool b => some (.after (.bool b) stack)
  | .number n => some (.after (.number n) stack)
  | .string s => some (.after (.string s) stack)
  | .openArray => some (.firstItem stack)
  | .openObject => some (.firstKey stack)
  | _ => none

def afterToken? (value : Json) : List Frame → Token → Option Awaiting
  | .item items :: stack, .comma => some (.value (.item (value :: items) :: stack))
  | .item items :: stack, .closeArray => some (.after (.array (value :: items).reverse) stack)
  | .member members key :: stack, .comma => some (.key ((key, value) :: members) stack)
  | .member members key :: stack, .closeObject =>
    some (.after (.object ((key, value) :: members).reverse) stack)
  | _, _ => none

def Awaiting.step? : Awaiting → Token → Option Awaiting
  | .value stack, token => valueToken? stack token
  | .firstItem stack, .closeArray => some (.after (.array []) stack)
  | .firstItem stack, token => valueToken? (.item [] :: stack) token
  | .firstKey stack, .closeObject => some (.after (.object []) stack)
  | .firstKey stack, .string name => some (.colon [] name stack)
  | .key members stack, .string name => some (.colon members name stack)
  | .colon members name stack, .colon => some (.value (.member members name :: stack))
  | .after done stack, token => afterToken? done stack token
  | _, _ => none

def ofTokens? (tokens : List Token) : Option Json :=
  match tokens.foldlM Awaiting.step? (.value []) with
  | some (.after value []) => some value
  | _ => none

def ofString? (text : String) : Option Json := do
  let tokens ← Token.scan text.toList
  ofTokens? tokens

mutual

/-- How many arrays and objects stand inside one another. -/
def depth : Json → Nat
  | array items => depthItems items + 1
  | object members => depthMembers members + 1
  | _ => 0

def depthItems : List Json → Nat
  | [] => 0
  | item :: items => max item.depth (depthItems items)

def depthMembers : List (Literal × Json) → Nat
  | [] => 0
  | (_, value) :: members => max value.depth (depthMembers members)

end

mutual

/-- Every literal spells a text and every number is in the range of floats. -/
def isSound : Json → Bool
  | number n => n.float?.isSome
  | string s => s.isSome
  | array items => soundItems items
  | object members => soundMembers members
  | _ => true

def soundItems : List Json → Bool
  | [] => true
  | item :: items => item.isSound && soundItems items

def soundMembers : List (Literal × Json) → Bool
  | [] => true
  | (key, value) :: members => key.isSome && value.isSound && soundMembers members

end

end Json

end Crochet
