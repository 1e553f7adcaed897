/-
# Crochet.Terminology -- the two vocabularies and the way from UK to US words

UK patterns call `dc` what US patterns call `sc`, and `tr` what they call `dc`.
`normalize` replaces UK words by US words, every word once: a `dc` that came
from `tr` stays.  A word is a maximal run of ASCII letters, so `2dc` holds the
word `dc` and `dcx` does not.
-/

set_option autoImplicit false

namespace Crochet

/-- Which stitch vocabulary a pattern is written in. -/
inductive Terminology where
  | us
  | uk
deriving DecidableEq, Repr, Inhabited

namespace Terminology

/-- The vocabulary behind a "US terms" switch. -/
def ofUsFlag (us : Bool) : Terminology := if us then .us else .uk

/-- The vocabulary's name in documents. -/
def name : Terminology → String
  | us => "Us"
  | uk => "Uk"

def byName : List (String × Terminology) := [(us.name, us), (uk.name, uk)]

/-- Two words of ASCII letters are equal up to case. -/
def sameWord (v w : List Char) : Bool := v.map Char.toLower == w.map Char.toLower

/-- The US word for a UK word.  The abbreviations are case sensitive, the long words are not. -/
def usWord (word : List Char) : List Char :=
  if word = ['d', 'c'] then ['s', 'c']
  else if word = ['t', 'r'] then ['d', 'c']
  else if sameWord word "increase".toList then ['i', 'n', 'c']
  else if sameWord word "decrease".toList then ['d', 'e', 'c']
  else word

/-- The text in US words when its last few characters, newest first, were the letters
`word`. -/
def usTextFrom (word : List Char) : List Char → List Char
  | [] => usWord word.reverse
  | c :: cs =>
    if c.isAlpha then usTextFrom (c :: word) cs
    else usWord word.reverse ++ c :: usTextFrom [] cs

def usText (text : List Char) : List Char := usTextFrom [] text

/-- The text in US words, whichever vocabulary it was written in. -/
def normalize (terms : Terminology) (text : String) : String :=
  match terms with
  | us => text
  | uk => String.ofList (usText text.toList)

end Terminology

end Crochet
