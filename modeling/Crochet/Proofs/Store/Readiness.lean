/-
# Crochet.Proofs.Store.Readiness -- a directory that takes what is written to it

If a write of a key's file would work, all later writes of it do.  The first
one creates the directory, if that is not there; from then on the tree is
`Ready` and stays so: a write makes one entry, which is read back and touches
no other.  Nothing is asked of the tree but that the writes would work, and
whatever stood in the directory may stand there still.
-/
import Crochet.Proofs.Store.Directory

set_option autoImplicit false

namespace Crochet.Directory

open FileTree

/-- A write under the key would work. -/
def Accepts (tree : FileTree) (root key : String) : Prop :=
  ((store root : Store (StateM FileTree)).write key "" tree).1 = .ok ()

/-- The file of a key may stand in the directory. -/
structure Takes (tree : FileTree) (root key : String) : Prop where
  valid : isKey key = true
  fits : Fits root (fileName key)
  free : tree.find? (filePlace tree root key) ≠ some .directory

/-- The directory is there and takes the files of some keys. -/
structure Ready (tree : FileTree) (root : String) (keys : List String) : Prop where
  opens : tree.Opens root (tree.placeOf root)
  takes : ∀ key ∈ keys, Takes tree root key

/-- Creating the directory, if it is not there, gives a tree that is ready. -/
def Opening (tree next : FileTree) (root : String) (keys : List String) : Prop :=
  tree.createDirs root = (.ok (), next) ∧ Ready next root keys

variable {tree next : FileTree} {root key text : String} {keys : List String}

/-! ## Before the first write -/

theorem write_eq (root key text : String) (tree : FileTree) :
    (write root key text : StateM FileTree (Except StoreFault Unit)) tree =
      match tree.createDirs root with
      | (.error fault, next) => (.error (failed "create" root fault), next)
      | (.ok (), next) =>
        match next.write (path root key) text.toUTF8 with
        | .error fault => (.error (failed "write" (path root key) fault), next)
        | .ok last => (.ok (), last) := by
  cases made : tree.createDirs root with
  | mk result next =>
      have created : (Files.createDirs root : StateM FileTree (Except FileFault Unit)) tree =
          (result, next) := made
      cases result with
      | error fault =>
          simp only [write, bind, StateT.bind, created]
          rfl
      | ok done =>
          cases written : next.write (path root key) text.toUTF8 with
          | error fault =>
              have refused : (Files.write (path root key) text.toUTF8 :
                  StateM FileTree (Except FileFault Unit)) next = (.error fault, next) := by
                show next.changed (next.write (path root key) text.toUTF8) = _
                rw [written]
                rfl
              simp only [write, bind, StateT.bind, created, refused, written]
              rfl
          | ok last =>
              simp only [written]
              exact write_ok made written

theorem Accepts.valid (accepts : Accepts tree root key) : isKey key = true := by
  by_contra invalid
  have refused : (store root : Store (StateM FileTree)).write key "" =
      return .error (.invalidKey key) := if_neg invalid
  rw [Accepts, refused] at accepts
  cases accepts

/-- Where a write would work the directory can be created, and takes the file. -/
theorem Accepts.created (accepts : Accepts tree root key) (filled : root.isEmpty = false) :
    (tree.createDirs root).1 = .ok () ∧
      (tree.createDirs root).2.Opens root ((tree.createDirs root).2.placeOf root) ∧
      Takes (tree.createDirs root).2 root key := by
  have valid := accepts.valid
  rw [Accepts, store_write valid, write_eq] at accepts
  cases made : tree.createDirs root with
  | mk result next =>
      rw [made] at accepts
      cases result with
      | error fault => cases accepts
      | ok done =>
          cases written : next.write (path root key) "".toUTF8 with
          | error fault =>
              simp only [written] at accepts
              cases accepts
          | ok last =>
              obtain ⟨place, opens, fits, free⟩ :=
                opens_of_write filled (plain_fileName valid) written
              obtain rfl := opens.place_eq
              exact ⟨rfl, opens, valid, fits, free⟩

theorem opening_of_accepts (filled : root.isEmpty = false) (some : keys ≠ [])
    (accepts : ∀ key ∈ keys, Accepts tree root key) :
    Opening tree (tree.createDirs root).2 root keys := by
  obtain ⟨first, rest, rfl⟩ := List.exists_cons_of_ne_nil some
  obtain ⟨created, opens, -⟩ := (accepts first List.mem_cons_self).created filled
  exact ⟨Prod.ext created rfl, opens, fun key inside => ((accepts key inside).created filled).2.2⟩

/-! ## From then on -/

theorem Ready.opening (ready : Ready tree root keys) : Opening tree tree root keys :=
  ⟨createDirs_of_opens ready.opens, ready⟩

/-- A tree with the file of a key in it. -/
def stored (tree : FileTree) (root key text : String) : FileTree :=
  tree.put (filePlace tree root key) (.file text.toUTF8)

/-- The file of the key is there and says this. -/
def Stands (tree : FileTree) (root key text : String) : Prop :=
  tree.find? (filePlace tree root key) = some (.file text.toUTF8)

/-- A write makes one entry, in the tree that has the directory. -/
theorem Opening.write (opening : Opening tree next root keys) (inside : key ∈ keys)
    (text : String) :
    (store root : Store (StateM FileTree)).write key text tree =
      (.ok (), stored next root key text) := by
  obtain ⟨created, ready⟩ := opening
  have takes := ready.takes key inside
  rw [store_write takes.valid]
  exact write_ok created
    (write_join ready.opens (plain_fileName takes.valid) takes.fits takes.free _)

@[simp] theorem filePlace_stored (tree : FileTree) (root key text other : String) :
    filePlace (stored tree root key text) root other = filePlace tree root other := rfl

theorem find?_stored (tree : FileTree) (root key text other : String) :
    (stored tree root key text).find? (filePlace tree root other) =
      if key = other then some (.file text.toUTF8) else tree.find? (filePlace tree root other) := by
  rw [stored, find?_put (filePlace_ne_nil tree root key)]
  by_cases same : key = other
  · rw [if_pos (congrArg _ same), if_pos same]
  · rw [if_neg fun equal => same (filePlace_injective equal), if_neg same]

theorem stands_stored (tree : FileTree) (root key text : String) :
    Stands (stored tree root key text) root key text := by
  have found := find?_stored tree root key text key
  rwa [if_pos rfl] at found

theorem Stands.put {said : String} (stands : Stands tree root key said) {other : String}
    (different : other ≠ key) (text : String) :
    Stands (stored tree root other text) root key said := by
  have found := find?_stored tree root other text key
  rw [if_neg different] at found
  exact found.trans stands

/-- A ready tree is ready for the next write. -/
theorem Ready.put (ready : Ready tree root keys) (inside : key ∈ keys) (text : String) :
    Ready (stored tree root key text) root keys := by
  have keeps := put_keeps (filePlace_ne_nil tree root key) (ready.takes key inside).free
    (.file text.toUTF8)
  refine ⟨ready.opens.of_keeps keeps, fun other isKey => ?_⟩
  obtain ⟨valid, fits, free⟩ := ready.takes other isKey
  refine ⟨valid, fits, ?_⟩
  rw [filePlace_stored, find?_stored]
  split
  · exact nofun
  · exact free

/-- What is there is read back. -/
theorem Ready.read (ready : Ready tree root keys) (inside : key ∈ keys)
    (stands : Stands tree root key text) : tree.read (path root key) = .ok text.toUTF8 := by
  obtain ⟨valid, fits, -⟩ := ready.takes key inside
  have found := read_join ready.opens (plain_fileName valid) fits
  rw [show tree.find? (tree.placeOf root ++ [fileName key]) = _ from stands] at found
  exact found

end Crochet.Directory
