/-
# Crochet.FilePath -- the text of a path

A path is a text of names with slashes between them.  Names that are empty or
`.` do not move and are called idle; `..` moves up.  A path is absolute when it
starts with a slash, and names a directory when it ends with one.  Nothing
here looks at any file.
-/
import Crochet.Text.Pieces

set_option autoImplicit false

namespace Crochet.FilePath

/-- The names of a path, empty ones included. -/
def names (path : String) : List String := (Text.pieces '/' path.toList).map String.ofList

def steps (path : String) : List String := (names path).filter fun name => !name.isEmpty

def isAbsolute (path : String) : Bool :=
  match path.toList.head? with
  | some c => c == '/'
  | none => false

/-- The path ends with a slash. -/
def namesDirectory (path : String) : Bool :=
  match path.toList.getLast? with
  | some c => c == '/'
  | none => false

def join (directory name : String) : String :=
  if directory.isEmpty || namesDirectory directory then directory ++ name
  else directory ++ "/" ++ name

/-- A name that does not move. -/
def isIdle (name : String) : Bool := name.isEmpty || name == "."

/-- The path without idle names at its end; the first name always stays. -/
def withoutIdle : List String → List String
  | [] => []
  | first :: rest => first :: (rest.reverse.dropWhile isIdle).reverse

/-- The path without its last name and the idle names around it; empty for a lone name, and
nothing for the top of all directories. -/
def parent? (path : String) : Option String :=
  match (withoutIdle (names path)).reverse with
  | [] => none
  | [only] => if only.isEmpty then none else some ""
  | _ :: before =>
    match withoutIdle before.reverse with
    | [""] => some "/"
    | kept => some (String.intercalate "/" kept)

/-- A path, its parent, the parent of that and so on, at most `limit` of them; neither the
empty path nor the top of all directories is listed. -/
def ancestorsUpTo : Nat → String → List String
  | 0, _ => []
  | limit + 1, path =>
    match parent? path with
    | some parent => path :: ancestorsUpTo limit parent
    | none => []

def ancestors (path : String) : List String := ancestorsUpTo (names path).length path

/-- The path stands for the same place as a bare name. -/
def isName (path name : String) : Bool :=
  match names path with
  | first :: rest => first == name && rest.all isIdle
  | [] => false

end Crochet.FilePath
