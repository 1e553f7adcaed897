/-
# Crochet.Files -- reading and writing files, and what can go wrong

Everything that keeps files can read one, write one, and create one
directory.  Creating a directory together with all that lead to it is built
from these: from the longest path on, each is tried, and a missing one above
it is created first.  A directory that is already there is never in the way.
-/
import Crochet.FilePath

set_option autoImplicit false

namespace Crochet

/-- Why a file operation fails. -/
inductive FileFault where
  | notFound
  | alreadyExists
  | notDirectory
  | isDirectory
  | nameTooLong
  /-- The bytes are not text. -/
  | notText
  /-- Anything else, in the system's words. -/
  | other (message : String)
deriving DecidableEq, Repr

/-- The system's words. -/
def FileFault.message : FileFault → String
  | notFound => "No such file or directory (os error 2)"
  | alreadyExists => "File exists (os error 17)"
  | notDirectory => "Not a directory (os error 20)"
  | isDirectory => "Is a directory (os error 21)"
  | nameTooLong => "File name too long (os error 36)"
  | notText => "stream did not contain valid UTF-8"
  | other message => message

def textOfBytes (bytes : ByteArray) : Except FileFault String :=
  match String.fromUTF8? bytes with
  | some text => .ok text
  | none => .error .notText

/-- Somewhere to read and write files. -/
class Files (m : Type → Type) where
  read (path : String) : m (Except FileFault ByteArray)
  write (path : String) (bytes : ByteArray) : m (Except FileFault Unit)
  createDir (path : String) : m (Except FileFault Unit)

namespace Files

variable {m : Type → Type} [Monad m] [Files m]

def isDirectory (path : String) : m Bool := do
  match ← Files.read path with
  | .error .isDirectory => return true
  | _ => return false

/-- A failure to create a directory does not matter when it is there. -/
def unlessThere (path : String) : Except FileFault Unit → m (Except FileFault Unit)
  | .ok () => return .ok ()
  | .error fault => do
    if ← isDirectory path then return .ok () else return .error fault

/-- Creates the first of some paths, each of them the parent of the one before it. -/
def createFirst : List String → m (Except FileFault Unit)
  | [] => return .ok ()
  | path :: above => do
    match ← Files.createDir path with
    | .error .notFound => do
      match ← createFirst above with
      | .ok () => unlessThere path (← Files.createDir path)
      | .error fault => return .error fault
    | result => unlessThere path result

/-- Creates a directory, and all that lead to it, unless it is there. -/
def createDirs (path : String) : m (Except FileFault Unit) :=
  createFirst (FilePath.ancestors path)

end Files

end Crochet
