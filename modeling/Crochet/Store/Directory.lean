/-
# Crochet.Store.Directory -- a store of one file per key

A key names the file `<key>.json` directly in the store's directory, which is
created with the first write.  Keys are made of ASCII letters, digits, `-` and
`_`, so no key leads anywhere else.
-/
import Crochet.Files
import Crochet.Store

set_option autoImplicit false

namespace Crochet.Directory

def isKeyChar (c : Char) : Bool := c.isAlphanum || c == '-' || c == '_'

def isKey (key : String) : Bool := !key.isEmpty && key.toList.all isKeyChar

def path (root key : String) : String := FilePath.join root (key ++ ".json")

def failed (verb path : String) (fault : FileFault) : StoreFault :=
  .failed (verb ++ " '" ++ path ++ "': " ++ fault.message)

variable {m : Type → Type} [Monad m] [Files m]

/-- Writes a valid key's file. -/
def write (root key text : String) : m (Except StoreFault Unit) := do
  match ← Files.createDirs root with
  | .error fault => return .error (failed "create" root fault)
  | .ok () =>
    match ← Files.write (path root key) text.toUTF8 with
    | .error fault => return .error (failed "write" (path root key) fault)
    | .ok () => return .ok ()

/-- What the bytes of a key's file say; a missing file says nothing. -/
def readBytes (path : String) : Except FileFault ByteArray → Except StoreFault (Option String)
  | .error .notFound => .ok none
  | .error fault => .error (failed "read" path fault)
  | .ok bytes =>
    match textOfBytes bytes with
    | .ok text => .ok (some text)
    | .error fault => .error (failed "read" path fault)

/-- Reads a valid key's file. -/
def read (root key : String) : m (Except StoreFault (Option String)) := do
  return readBytes (path root key) (← Files.read (path root key))

def store (root : String) : Store m where
  write key text :=
    if isKey key then write root key text else return .error (.invalidKey key)
  read key := if isKey key then read root key else return .error (.invalidKey key)

end Crochet.Directory
