/-
# Crochet.FileTree -- files and directories as a value

A file tree lists what exists, each file and directory under the names that
lead to it from the top, and it has a working directory.  A path is walked
name by name: a name can only be looked up in an existing directory, `..` leads
up and stays at the top, and both a name and a whole path have a greatest
length.
-/
import Crochet.Files
import Crochet.Table

set_option autoImplicit false

namespace Crochet

/-- What stands at a place. -/
inductive Node where
  | file (bytes : ByteArray)
  | directory

/-- Files and directories. -/
structure FileTree where
  /-- What exists, by the names that lead to it from the top. -/
  nodes : Table (List String) Node
  /-- The working directory. -/
  here : List String

namespace FileTree

/-- The tree with nothing in it, and its top as the working directory. -/
def empty : FileTree := { nodes := [], here := [] }

/-- The longest name, in bytes. -/
def longestName : Nat := 255

def longestPath : Nat := 4095

/-- What stands at a place; the top always exists. -/
def find? (tree : FileTree) (place : List String) : Option Node :=
  if place.isEmpty then some .directory else tree.nodes.find? place

def put (tree : FileTree) (place : List String) (node : Node) : FileTree :=
  { tree with nodes := tree.nodes.insert place node }

def enter (tree : FileTree) (place : List String) (name : String) :
    Except FileFault (List String) :=
  match tree.find? place with
  | none => .error .notFound
  | some (.file _) => .error .notDirectory
  | some .directory =>
    if FilePath.isIdle name then .ok place
    else if name = ".." then .ok place.dropLast
    else if longestName < name.utf8ByteSize then .error .nameTooLong
    else .ok (place ++ [name])

/-- The place that some names lead to from where a path starts. -/
def walk (tree : FileTree) (path : String) (names : List String) :
    Except FileFault (List String) :=
  if path.isEmpty then .error .notFound
  else if longestPath < path.utf8ByteSize then .error .nameTooLong
  else names.foldlM tree.enter (if FilePath.isAbsolute path then [] else tree.here)

def read (tree : FileTree) (path : String) : Except FileFault ByteArray := do
  let place ← tree.walk path (FilePath.names path)
  match tree.find? place with
  | some (.file bytes) => .ok bytes
  | some .directory => .error .isDirectory
  | none => .error .notFound

/-- The directory that a path's last name is looked up in, and that name; no name when it is
a dot or two, or when there is none. -/
def target (tree : FileTree) (path : String) :
    Except FileFault (List String × Option String) := do
  match (FilePath.steps path).reverse with
  | [] => do
    let place ← tree.walk path []
    .ok (place, none)
  | last :: before => do
    let place ← tree.walk path (before.reverse ++ ["."])
    .ok (place, if last = "." ∨ last = ".." then none else some last)

def write (tree : FileTree) (path : String) (bytes : ByteArray) : Except FileFault FileTree := do
  match ← tree.target path with
  | (_, none) => .error .isDirectory
  | (directory, some name) =>
    if FilePath.namesDirectory path then .error .isDirectory
    else do
      let place ← tree.enter directory name
      match tree.find? place with
      | some .directory => .error .isDirectory
      | _ => .ok (tree.put place (.file bytes))

def createDir (tree : FileTree) (path : String) : Except FileFault FileTree := do
  match ← tree.target path with
  | (_, none) => .error .alreadyExists
  | (directory, some name) => do
    let place ← tree.enter directory name
    match tree.find? place with
    | some _ => .error .alreadyExists
    | none => .ok (tree.put place .directory)

def namesIn (tree : FileTree) (place : List String) : List String :=
  tree.nodes.filterMap fun (names, _) =>
    if names.dropLast = place then names.getLast? else none

def files (tree : FileTree) : List (List String × ByteArray) :=
  tree.nodes.filterMap fun (names, node) =>
    match node with
    | .file bytes => some (names, bytes)
    | .directory => none

/-- What a change gives, and the tree after it; a failed change leaves the tree alone. -/
def changed (tree : FileTree) : Except FileFault FileTree → Except FileFault Unit × FileTree
  | .ok next => (.ok (), next)
  | .error fault => (.error fault, tree)

instance : Files (StateM FileTree) where
  read path := do return (← get).read path
  write path bytes := modifyGet fun tree => tree.changed (tree.write path bytes)
  createDir path := modifyGet fun tree => tree.changed (tree.createDir path)

end FileTree

end Crochet
