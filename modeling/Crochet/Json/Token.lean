/-
# Crochet.Json.Token -- the tokens of a JSON text

`Token.scan` folds a small machine over the characters, so it is structural
in the text and works in constant stack space.  Between tokens only blank,
tab, line feed and carriage return may stand.  `Token.chars` is the text of a
token.
-/
import Crochet.Json.Literal
import Crochet.Json.Number

set_option autoImplicit false

namespace Crochet.Json

/-- A token. -/
inductive Token where
  | openArray
  | closeArray
  | openObject
  | closeObject
  | colon
  | comma
  | null
  | bool (b : Bool)
  | number (n : Number)
  | string (s : Literal)
deriving DecidableEq, Repr

namespace Token

def chars : Token → List Char
  | openArray => ['[']
  | closeArray => [']']
  | openObject => ['\x7b']
  | closeObject => ['\x7d']
  | colon => [':']
  | comma => [',']
  | null => "null".toList
  | bool true => "true".toList
  | bool false => "false".toList
  | number n => n.chars
  | string s => s.quoted

/-- Where the scanner stands. -/
inductive Mode where
  | between
  /-- In a word or number, its characters newest first. -/
  | run (chars : List Char)
  /-- In a string, its code points newest first. -/
  | string (units : List Nat)
  /-- After a backslash in a string. -/
  | escape (units : List Nat)
  /-- After `\u` in a string, with that many hexadecimal digits still to come. -/
  | hex (units : List Nat) (missing : Nat) (value : Nat)
deriving DecidableEq, Repr

/-- The scanner: its mode and the tokens found, newest first. -/
structure Scanner where
  mode : Mode
  found : List Token
deriving DecidableEq, Repr

/-- The blanks that may stand between tokens. -/
def isSpace (c : Char) : Bool := c == ' ' || c == '\t' || c == '\n' || c == '\r'

/-- The characters that words and numbers are made of. -/
def isRunChar (c : Char) : Bool := c.isAlphanum || c == '+' || c == '-' || c == '.'

def ofRun? (run : List Char) : Option Token :=
  if run = "null".toList then some null
  else if run = "true".toList then some (bool true)
  else if run = "false".toList then some (bool false)
  else (Number.ofChars? run).map number

def punctuation? (c : Char) : Option Token :=
  match c with
  | '[' => some openArray
  | ']' => some closeArray
  | '\x7b' => some openObject
  | '\x7d' => some closeObject
  | ':' => some colon
  | ',' => some comma
  | _ => none

/-- What a one-letter escape spells. -/
def escaped? (c : Char) : Option Nat :=
  match c with
  | '"' => some 0x22
  | '\\' => some 0x5C
  | '/' => some 0x2F
  | 'b' => some 8
  | 'f' => some 12
  | 'n' => some 10
  | 'r' => some 13
  | 't' => some 9
  | _ => none

def hexValue? (c : Char) : Option Nat :=
  if '0' ≤ c ∧ c ≤ '9' then some (c.toNat - '0'.toNat)
  else if 'a' ≤ c ∧ c ≤ 'f' then some (c.toNat - 'a'.toNat + 10)
  else if 'A' ≤ c ∧ c ≤ 'F' then some (c.toNat - 'A'.toNat + 10)
  else none

def start? (found : List Token) (c : Char) : Option Scanner :=
  if isSpace c then some ⟨.between, found⟩
  else if c = '"' then some ⟨.string [], found⟩
  else if isRunChar c then some ⟨.run [c], found⟩
  else (punctuation? c).map fun token => ⟨.between, token :: found⟩

def inString? (units : List Nat) (found : List Token) (c : Char) : Option Scanner :=
  if c = '"' then some ⟨.between, string (Literal.ofReversed units) :: found⟩
  else if c = '\\' then some ⟨.escape units, found⟩
  else if c.toNat < 0x20 then none
  else some ⟨.string (c.toNat :: units), found⟩

def Scanner.step? (s : Scanner) (c : Char) : Option Scanner :=
  match s.mode with
  | .between => start? s.found c
  | .run run =>
    if isRunChar c then some ⟨.run (c :: run), s.found⟩
    else do
      let token ← ofRun? run.reverse
      start? (token :: s.found) c
  | .string units => inString? units s.found c
  | .escape units =>
    if c = 'u' then some ⟨.hex units 4 0, s.found⟩
    else (escaped? c).map fun u => ⟨.string (u :: units), s.found⟩
  | .hex units missing value => do
    let digit ← hexValue? c
    let value := 16 * value + digit
    if missing ≤ 1 then some ⟨.string (value :: units), s.found⟩
    else some ⟨.hex units (missing - 1) value, s.found⟩

/-- The tokens of a text that ends here, newest first. -/
def Scanner.finish? (s : Scanner) : Option (List Token) :=
  match s.mode with
  | .between => some s.found
  | .run run => do
    let token ← ofRun? run.reverse
    some (token :: s.found)
  | _ => none

def scan (cs : List Char) : Option (List Token) := do
  let s ← cs.foldlM Scanner.step? ⟨.between, []⟩
  let found ← s.finish?
  some found.reverse

end Token

end Crochet.Json
