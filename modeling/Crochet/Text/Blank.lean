/-
# Crochet.Text.Blank -- white space and how a line loses it

Texts are lists of characters.  A character is blank when it has Unicode's
White_Space property; `trim` removes blanks from both ends and keeps every
blank inside.  `dropEndWhile` is the one-sided cut that `trim` and the number
printer share.
-/

set_option autoImplicit false

namespace Crochet.Text

/-- Unicode's White_Space property: twenty-five code points. -/
def isBlank (c : Char) : Bool :=
  let n := c.toNat
  (0x9 ≤ n && n ≤ 0xD) || n == 0x20 || n == 0x85 || n == 0xA0 || n == 0x1680 ||
    (0x2000 ≤ n && n ≤ 0x200A) || n == 0x2028 || n == 0x2029 || n == 0x202F ||
    n == 0x205F || n == 0x3000

/-- The text without its longest ending of characters that pass the test. -/
def dropEndWhile (test : Char → Bool) (cs : List Char) : List Char :=
  (cs.reverse.dropWhile test).reverse

def trimStart (cs : List Char) : List Char := cs.dropWhile isBlank

def trim (cs : List Char) : List Char := dropEndWhile isBlank (trimStart cs)

end Crochet.Text
