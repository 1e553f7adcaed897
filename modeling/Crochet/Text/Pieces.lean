/-
# Crochet.Text.Pieces -- cutting a text at a character, and finding a word in it

`pieces` cuts at every separator and always yields one piece more than there
are separators.  `occurs` finds a word anywhere.
-/

set_option autoImplicit false

namespace Crochet.Text

/-- The pieces of a text whose last few characters, newest first, were `piece`. -/
def piecesFrom (sep : Char) (piece : List Char) : List Char → List (List Char)
  | [] => [piece.reverse]
  | c :: cs =>
    if c = sep then piece.reverse :: piecesFrom sep [] cs else piecesFrom sep (c :: piece) cs

def pieces (sep : Char) (cs : List Char) : List (List Char) := piecesFrom sep [] cs

def occurs (word : List Char) : List Char → Bool
  | [] => word.isEmpty
  | c :: cs => word.isPrefixOf (c :: cs) || occurs word cs

end Crochet.Text
