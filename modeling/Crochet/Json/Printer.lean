/-
# Crochet.Json.Printer -- the text of a JSON value

A printed text is a list of tokens with blanks between some of them.
`Layout.compact` writes no blanks; `Layout.indented` puts every item and
member on a line of its own, two blanks deeper than the bracket around it, and
writes an empty array or object without any.  The tokens do not depend on the
layout.
-/
import Crochet.Json.Value

set_option autoImplicit false

namespace Crochet.Json

/-- How a value is laid out. -/
inductive Layout where
  | compact
  | indented
deriving DecidableEq, Repr

/-- A piece of a printed text. -/
inductive Ink where
  | token (t : Token)
  /-- A line break, and two blanks for each bracket around the next line. -/
  | newline (depth : Nat)
  | blank
deriving DecidableEq, Repr

namespace Ink

def chars : Ink → List Char
  | token t => t.chars
  | newline depth => '\n' :: List.replicate (2 * depth) ' '
  | blank => [' ']

end Ink

namespace Layout

/-- The line break before an item, a member or a closing bracket. -/
def lineBreak (layout : Layout) (depth : Nat) : List Ink :=
  match layout with
  | compact => []
  | indented => [.newline depth]

def colon (layout : Layout) : List Ink :=
  match layout with
  | compact => [.token .colon]
  | indented => [.token .colon, .blank]

end Layout

mutual

/-- The pieces of a value inside `depth` brackets. -/
def ink (layout : Layout) (depth : Nat) : Json → List Ink
  | null => [.token .null]
  | bool b => [.token (.bool b)]
  | number n => [.token (.number n)]
  | string s => [.token (.string s)]
  | array [] => [.token .openArray, .token .closeArray]
  | array (item :: items) =>
    .token .openArray :: layout.lineBreak (depth + 1) ++ ink layout (depth + 1) item ++
      inkItems layout (depth + 1) items ++ layout.lineBreak depth ++ [.token .closeArray]
  | object [] => [.token .openObject, .token .closeObject]
  | object ((key, value) :: members) =>
    .token .openObject :: layout.lineBreak (depth + 1) ++ .token (.string key) :: layout.colon ++
      ink layout (depth + 1) value ++ inkMembers layout (depth + 1) members ++
      layout.lineBreak depth ++ [.token .closeObject]

/-- The pieces of further items, each after a comma. -/
def inkItems (layout : Layout) (depth : Nat) : List Json → List Ink
  | [] => []
  | item :: items =>
    .token .comma :: layout.lineBreak depth ++ ink layout depth item ++
      inkItems layout depth items

/-- The pieces of further members, each after a comma. -/
def inkMembers (layout : Layout) (depth : Nat) : List (Literal × Json) → List Ink
  | [] => []
  | (key, value) :: members =>
    .token .comma :: layout.lineBreak depth ++ .token (.string key) :: layout.colon ++
      ink layout depth value ++ inkMembers layout depth members

end

def chars (layout : Layout) (value : Json) : List Char := (ink layout 0 value).flatMap Ink.chars

def compact (value : Json) : String := String.ofList (value.chars .compact)

def indented (value : Json) : String := String.ofList (value.chars .indented)

def ofText (text : String) : Json := string (some text)

def ofNat (n : Nat) : Json := number (.ofNat n)

def ofFields (fields : List (String × Json)) : Json :=
  object (fields.map fun (name, value) => (some name, value))

end Crochet.Json
