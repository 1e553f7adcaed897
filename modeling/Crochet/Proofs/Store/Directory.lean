/-
# Crochet.Proofs.Store.Directory -- a directory of files keeps texts like the memory

Until the first text is written the file tree is left alone; with it comes the
directory.  From then on the tree `Holds` what the memory holds: one file
directly in the directory for each key, and nothing else that was not there
before.  Every call with a valid key keeps that up and is answered as by the
memory, so a whole run is; a call with any other key is refused before it
touches anything.
-/
import Crochet.Proofs.FileTree.Changes
import Crochet.Store.Directory
import Crochet.Store.Memory

set_option autoImplicit false

namespace Crochet

/-! ## Calls -/

namespace Store

/-- A call of a store. -/
inductive Call where
  | write (key text : String)
  | read (key : String)
deriving DecidableEq, Repr

/-- What a store answers. -/
inductive Answer where
  | wrote (result : Except StoreFault Unit)
  | found (result : Except StoreFault (Option String))

def Call.key : Call → String
  | .write key _ => key
  | .read key => key

/-- The answer to a call whose key is not valid. -/
def Call.refusal : Call → Answer
  | .write key _ => .wrote (.error (.invalidKey key))
  | .read key => .found (.error (.invalidKey key))

/-- The text that a call writes under a key. -/
def Call.textFor (key : String) : Call → Option String
  | .write other text => if other = key then some text else none
  | .read _ => none

/-- The text that was written last under a key. -/
def lastWritten (key : String) : List Call → Option String
  | [] => none
  | call :: calls => (lastWritten key calls).or (call.textFor key)

section

variable {m : Type → Type} [Monad m]

def perform (store : Store m) : Call → m Answer
  | .write key text => return .wrote (← store.write key text)
  | .read key => return .found (← store.read key)

/-- Performs calls one after another, and puts the answer beside each of them. -/
def performAll (store : Store m) : List Call → m (List (Call × Answer))
  | [] => return []
  | call :: calls => do
    let answer ← store.perform call
    return (call, answer) :: (← performAll store calls)

end

theorem performAll_cons {σ : Type} (store : Store (StateM σ)) (call : Call) (calls : List Call)
    (s : σ) : store.performAll (call :: calls) s =
      ((call, (store.perform call s).1) :: (store.performAll calls (store.perform call s).2).1,
        (store.performAll calls (store.perform call s).2).2) := rfl

theorem Call.textFor_eq_some_iff {key text : String} {call : Call} :
    call.textFor key = some text ↔ call = .write key text := by
  cases call with
  | read other => exact ⟨nofun, nofun⟩
  | write other written =>
      show (if other = key then some written else none) = some text ↔ _
      by_cases same : other = key
      · simp [same]
      · simp [same]

theorem mem_of_lastWritten {key text : String} {calls : List Call}
    (written : lastWritten key calls = some text) : .write key text ∈ calls := by
  induction calls with
  | nil => cases written
  | cons call calls ih =>
      rcases Option.or_eq_some_iff.mp written with later | ⟨-, here⟩
      · exact List.mem_cons_of_mem call (ih later)
      · rw [Call.textFor_eq_some_iff.mp here]
        exact List.mem_cons_self

/-- Calls with other keys do not matter. -/
theorem lastWritten_filter {test : String → Bool} {key : String} (kept : test key = true)
    (calls : List Call) :
    lastWritten key (calls.filter fun call => test call.key) = lastWritten key calls := by
  induction calls with
  | nil => rfl
  | cons call calls ih =>
      rw [List.filter_cons, lastWritten, ← ih]
      split
      · rfl
      · rename_i dropped
        have none : call.textFor key = none := by
          by_contra some
          obtain ⟨text, here⟩ := Option.ne_none_iff_exists'.mp some
          rw [Call.textFor_eq_some_iff.mp here] at dropped
          exact dropped kept
        rw [none, Option.or_none]

end Store

/-- The memory holds what was written last. -/
theorem Memory.find?_performAll (key : String) (calls : List Store.Call) (memory : Memory) :
    Table.find? key (Memory.store.performAll calls memory).2 =
      (Store.lastWritten key calls).or (memory.find? key) := by
  induction calls generalizing memory with
  | nil => rfl
  | cons call calls ih =>
      rw [Store.performAll_cons, Store.lastWritten, Option.or_assoc, ih]
      congr 1
      cases call with
      | read other => rfl
      | write other text =>
          have inserted : (Memory.store.perform (.write other text) memory).2 =
              memory.insert other text := rfl
          rw [inserted, Table.find?_insert, Store.Call.textFor]
          split <;> rfl

namespace Directory

open Store

/-! ## The file of a key -/

/-- The name of a key's file. -/
def fileName (key : String) : String := key ++ ".json"

theorem fileName_toList (key : String) :
    (fileName key).toList = key.toList ++ ".json".toList := String.toList_append

theorem fileName_injective {key other : String} (same : fileName key = fileName other) :
    key = other := by
  have chars := congrArg String.toList same
  rw [fileName_toList, fileName_toList] at chars
  exact String.toList_inj.mp (List.append_cancel_right chars)

/-- The ending alone is longer than the names with a meaning of their own. -/
theorem fileName_ne {short : String} (isShort : short.toList.length < 5) (key : String) :
    fileName key ≠ short := by
  rintro rfl
  rw [fileName_toList, List.length_append] at isShort
  have ending : ".json".toList.length = 5 := by decide
  omega

theorem slash_not_mem_of_isKey {key : String} (valid : isKey key = true) : '/' ∉ key.toList := by
  intro inside
  obtain ⟨-, allowed⟩ := Bool.and_eq_true_iff.mp valid
  have isChar : isKeyChar '/' = true := List.all_eq_true.mp allowed '/' inside
  revert isChar
  decide

/-- The file of a valid key stands directly in the directory. -/
theorem plain_fileName {key : String} (valid : isKey key = true) :
    FilePath.Plain (fileName key) := by
  refine ⟨?_, fileName_ne (by decide) key, ?_⟩
  · have filled : (fileName key).isEmpty = false := by
      rw [← Bool.not_eq_true, String.isEmpty_iff]
      exact fileName_ne (by decide) key
    have notDot : (fileName key == ".") = false :=
      beq_eq_false_iff_ne.mpr (fileName_ne (by decide) key)
    rw [FilePath.isIdle, filled, notDot, Bool.or_false]
  · intro slash
    rw [fileName_toList] at slash
    rcases List.mem_append.mp slash with inKey | inEnding
    · exact slash_not_mem_of_isKey valid inKey
    · revert inEnding
      decide

/-! ## The tree and the memory -/

/-- The directory is not there, and it can be created. -/
structure Fresh (start : FileTree) (root : String) : Prop where
  grounded : start.Grounded
  absent : start.find? (start.placeOf root) = none
  creates : (start.createDirs root).1 = .ok ()

/-- A valid key, at whose path the file system does not refuse to look. -/
structure Usable (start : FileTree) (root key : String) : Prop where
  valid : isKey key = true
  readable : (start.createDirs root).2.Readable (path root key)

/-- The place of a key's file. -/
def filePlace (start : FileTree) (root key : String) : List String :=
  start.placeOf root ++ [fileName key]

/-- The tree has the texts of the memory in the files of their keys, and is otherwise as the
directory was created. -/
structure Holds (start : FileTree) (root : String) (memory : Memory) (tree : FileTree) : Prop where
  here : tree.here = start.here
  file : ∀ key, Usable start root key → tree.find? (filePlace start root key) =
    (memory.find? key).map fun text => .file text.toUTF8
  other : ∀ place, (∀ key, Usable start root key → place ≠ filePlace start root key) →
    tree.find? place = (start.createDirs root).2.find? place

/-- What the tree has to do with the memory: both are as at the start, or the one holds the
other. -/
def Mirrors (start : FileTree) (root : String) (memory : Memory) (tree : FileTree) : Prop :=
  (memory = Memory.empty ∧ tree = start) ∨
    (memory ≠ Memory.empty ∧ Holds start root memory tree)

variable {start tree : FileTree} {root key text : String} {memory : Memory}

theorem Fresh.opens (fresh : Fresh start root) :
    (start.createDirs root).2.Opens root (start.placeOf root) :=
  FileTree.createDirs_opens fresh.grounded fresh.absent fresh.creates

theorem Usable.fits (usable : Usable start root key) (fresh : Fresh start root) :
    FileTree.Fits root (fileName key) :=
  usable.readable.fits fresh.opens (plain_fileName usable.valid)

theorem Fresh.filePlace_absent (fresh : Fresh start root) (key : String) :
    start.find? (filePlace start root key) = none :=
  fresh.grounded.nothing_below fresh.absent [fileName key]

/-- Creating the directory leaves the place of a usable key empty. -/
theorem Usable.absent (usable : Usable start root key) (fresh : Fresh start root) :
    (start.createDirs root).2.find? (filePlace start root key) = none := by
  have free := usable.readable.free fresh.opens (plain_fileName usable.valid)
  rcases (FileTree.createDirs_grown start root).find? (filePlace start root key) with
    same | ⟨-, created⟩
  · exact same.trans (fresh.filePlace_absent key)
  · exact absurd created free

theorem filePlace_injective {other : String}
    (same : filePlace start root key = filePlace start root other) : key = other := by
  have names := List.append_cancel_left same
  exact fileName_injective (List.singleton_inj.mp names)

theorem holds_created (fresh : Fresh start root) :
    Holds start root Memory.empty (start.createDirs root).2 where
  here := (FileTree.createDirs_grown start root).here
  file _ usable := usable.absent fresh
  other _ _ := rfl

/-- The directory stays open, whatever files are in it. -/
theorem Holds.opens (holds : Holds start root memory tree) (fresh : Fresh start root) :
    tree.Opens root (start.placeOf root) := by
  apply fresh.opens.of_keeps
  refine ⟨holds.here.trans (FileTree.createDirs_grown start root).here.symm,
    fun place directory => ?_⟩
  rw [holds.other place]
  · exact directory
  · rintro key usable rfl
    rw [usable.absent fresh] at directory
    cases directory

theorem Holds.read (holds : Holds start root memory tree) (fresh : Fresh start root)
    (usable : Usable start root key) : tree.read (path root key) =
      FileTree.contents ((memory.find? key).map fun text => .file text.toUTF8) := by
  rw [← holds.file key usable]
  exact FileTree.read_join (holds.opens fresh) (plain_fileName usable.valid) (usable.fits fresh)

theorem filePlace_ne_nil (start : FileTree) (root key : String) :
    filePlace start root key ≠ [] := by
  simp [filePlace]

/-- A write makes one entry, at the place of the key's file. -/
theorem Holds.write (holds : Holds start root memory tree) (fresh : Fresh start root)
    (usable : Usable start root key) (text : String) :
    tree.write (path root key) text.toUTF8 =
      .ok (tree.put (filePlace start root key) (.file text.toUTF8)) := by
  apply FileTree.write_join (holds.opens fresh) (plain_fileName usable.valid) (usable.fits fresh)
  intro occupied
  have found := holds.file key usable
  rw [filePlace, occupied] at found
  cases stored : Table.find? key memory with
  | none =>
      rw [stored] at found
      cases found
  | some old =>
      rw [stored] at found
      cases found

/-- The entry of a key in the tree goes with its entry in the memory. -/
theorem Holds.put (holds : Holds start root memory tree) (usable : Usable start root key)
    (text : String) : Holds start root (memory.insert key text)
      (tree.put (filePlace start root key) (.file text.toUTF8)) := by
  have below := filePlace_ne_nil start root key
  refine ⟨holds.here, fun other isUsable => ?_, fun place apart => ?_⟩
  · rw [FileTree.find?_put below, Table.find?_insert]
    by_cases same : key = other
    · rw [if_pos same, same, if_pos rfl]
      rfl
    · have different : filePlace start root key ≠ filePlace start root other := by
        intro equal
        exact same (filePlace_injective equal)
      rw [if_neg different, if_neg same]
      exact holds.file other isUsable
  · rw [FileTree.find?_put below, if_neg (apart key usable).symm]
    exact holds.other place apart

/-! ## One call -/

theorem textOfBytes_toUTF8 (text : String) : textOfBytes text.toUTF8 = .ok text := by
  have valid : String.fromUTF8? text.toUTF8 = some text := dif_pos text.isValidUTF8
  rw [textOfBytes, valid]

theorem write_ok {next last : FileTree} (created : tree.createDirs root = (.ok (), next))
    (written : next.write (path root key) text.toUTF8 = .ok last) :
    (write root key text : StateM FileTree (Except StoreFault Unit)) tree = (.ok (), last) := by
  have made : (Files.createDirs root : StateM FileTree (Except FileFault Unit)) tree =
      (.ok (), next) := created
  have entered : (Files.write (path root key) text.toUTF8 :
      StateM FileTree (Except FileFault Unit)) next = (.ok (), last) := by
    show next.changed (next.write (path root key) text.toUTF8) = _
    rw [written]
    rfl
  simp only [write, bind, StateT.bind, made, entered]
  rfl

section

variable {m : Type → Type} [Monad m] [Files m]

theorem store_write (valid : isKey key = true) (text : String) :
    (store root : Store m).write key text = write root key text := if_pos valid

theorem store_read (valid : isKey key = true) :
    (store root : Store m).read key = read root key := if_pos valid

end

/-- A call with another key is refused, and changes nothing. -/
theorem perform_refused (root : String) (call : Call) (tree : FileTree)
    (invalid : isKey call.key = false) :
    (store root : Store (StateM FileTree)).perform call tree = (call.refusal, tree) := by
  have refused : ¬ isKey call.key = true := by simp [invalid]
  cases call with
  | write key text =>
      have answered : (store root : Store (StateM FileTree)).write key text =
          return .error (.invalidKey key) := if_neg refused
      rw [perform, answered]
      rfl
  | read key =>
      have answered : (store root : Store (StateM FileTree)).read key =
          return .error (.invalidKey key) := if_neg refused
      rw [perform, answered]
      rfl

theorem perform_write (valid : isKey key = true) (text : String) (tree : FileTree) :
    (store root : Store (StateM FileTree)).perform (.write key text) tree =
      (.wrote ((write root key text : StateM FileTree (Except StoreFault Unit)) tree).1,
        ((write root key text : StateM FileTree (Except StoreFault Unit)) tree).2) := by
  rw [perform, store_write valid]
  rfl

theorem perform_read (valid : isKey key = true) (tree : FileTree) :
    (store root : Store (StateM FileTree)).perform (.read key) tree =
      (.found (readBytes (path root key) (tree.read (path root key))), tree) := by
  rw [perform, store_read valid]
  rfl

/-! ## What the memory does -/

theorem memory_write (key text : String) (memory : Memory) :
    Memory.store.perform (.write key text) memory = (.wrote (.ok ()), memory.insert key text) := rfl

theorem memory_read (key : String) (memory : Memory) :
    Memory.store.perform (.read key) memory = (.found (.ok (memory.find? key)), memory) := rfl

theorem insert_ne_empty (key text : String) (memory : Memory) :
    memory.insert key text ≠ Memory.empty := by
  intro empty
  have found : Table.find? key (memory.insert key text) = some text := by
    rw [Table.find?_insert, if_pos rfl]
  rw [empty] at found
  cases found

theorem Usable.read_start (usable : Usable start root key) (fresh : Fresh start root) :
    start.read (path root key) = .error .notFound :=
  FileTree.read_join_of_grown (FileTree.createDirs_grown start root) fresh.opens
    (plain_fileName usable.valid) (usable.fits fresh) (fresh.filePlace_absent key)

/-- A call with a valid key is answered as by the memory, and keeps up what the tree and the
memory have to do with each other. -/
theorem perform_mirrors (fresh : Fresh start root) (mirrors : Mirrors start root memory tree)
    (call : Call) (usable : Usable start root call.key) :
    ((store root : Store (StateM FileTree)).perform call tree).1 =
        (Memory.store.perform call memory).1 ∧
      Mirrors start root (Memory.store.perform call memory).2
        ((store root : Store (StateM FileTree)).perform call tree).2 := by
  cases call with
  | write key text =>
      have usable : Usable start root key := usable
      rw [perform_write usable.valid, memory_write]
      -- the directory is created now, or it is there
      obtain ⟨next, created, holds⟩ : ∃ next, tree.createDirs root = (.ok (), next) ∧
          Holds start root memory next := by
        rcases mirrors with ⟨rfl, rfl⟩ | ⟨-, holds⟩
        · exact ⟨(tree.createDirs root).2, Prod.ext fresh.creates rfl, holds_created fresh⟩
        · exact ⟨tree, FileTree.createDirs_of_opens (holds.opens fresh), holds⟩
      rw [write_ok created (holds.write fresh usable text)]
      exact ⟨rfl, .inr ⟨insert_ne_empty key text memory, holds.put usable text⟩⟩
  | read key =>
      have usable : Usable start root key := usable
      rw [perform_read usable.valid, memory_read]
      refine ⟨?_, mirrors⟩
      rcases mirrors with ⟨rfl, rfl⟩ | ⟨-, holds⟩
      · rw [usable.read_start fresh]
        rfl
      · rw [holds.read fresh usable]
        cases Table.find? key memory with
        | none => rfl
        | some text =>
            show Answer.found (readBytes _ (.ok text.toUTF8)) = _
            rw [readBytes, textOfBytes_toUTF8]

/-! ## All calls -/

theorem performAll_mirrors (fresh : Fresh start root) (mirrors : Mirrors start root memory tree)
    (calls : List Call)
    (usable : ∀ call ∈ calls, isKey call.key = true → Usable start root call.key) :
    ((store root : Store (StateM FileTree)).performAll calls tree).1.filter
        (fun reply => isKey reply.1.key) =
      (Memory.store.performAll (calls.filter fun call => isKey call.key) memory).1 ∧
      Mirrors start root
        (Memory.store.performAll (calls.filter fun call => isKey call.key) memory).2
        ((store root : Store (StateM FileTree)).performAll calls tree).2 := by
  induction calls generalizing memory tree with
  | nil => exact ⟨rfl, mirrors⟩
  | cons call calls ih =>
      have later : ∀ other ∈ calls, isKey other.key = true → Usable start root other.key :=
        fun other inside => usable other (List.mem_cons_of_mem call inside)
      rw [performAll_cons, List.filter_cons, List.filter_cons]
      by_cases valid : isKey call.key = true
      · obtain ⟨answered, kept⟩ :=
          perform_mirrors fresh mirrors call (usable call List.mem_cons_self valid)
        obtain ⟨rest, final⟩ := ih kept later
        rw [if_pos valid, if_pos valid, performAll_cons, answered, rest]
        exact ⟨rfl, final⟩
      · have invalid : isKey call.key = false := by simpa using valid
        rw [if_neg valid, if_neg valid, perform_refused root call tree invalid]
        exact ih mirrors later

/-- The files of a tree that mirrors the memory: those that were there, and those of the keys in
the memory. -/
theorem Mirrors.file_iff (fresh : Fresh start root) (mirrors : Mirrors start root memory tree)
    (usable : ∀ key text, memory.find? key = some text → Usable start root key)
    (place : List String) (bytes : ByteArray) :
    tree.find? place = some (.file bytes) ↔ start.find? place = some (.file bytes) ∨
      ∃ key text, memory.find? key = some text ∧ place = filePlace start root key ∧
        bytes = text.toUTF8 := by
  rcases mirrors with ⟨rfl, rfl⟩ | ⟨-, holds⟩
  · refine ⟨.inl, ?_⟩
    rintro (isFile | ⟨key, text, stored, -⟩)
    · exact isFile
    · cases stored
  · by_cases isKeyPlace : ∃ key, Usable start root key ∧ place = filePlace start root key
    · obtain ⟨key, isUsable, rfl⟩ := isKeyPlace
      rw [holds.file key isUsable, fresh.filePlace_absent key]
      constructor
      · intro isFile
        obtain ⟨text, stored, same⟩ := Option.map_eq_some_iff.mp isFile
        cases same
        exact .inr ⟨key, text, stored, rfl, rfl⟩
      · rintro (isFile | ⟨other, text, stored, same, rfl⟩)
        · cases isFile
        · rw [filePlace_injective same, stored]
          rfl
    · have apart : ∀ key, Usable start root key → place ≠ filePlace start root key :=
        fun key isUsable same => isKeyPlace ⟨key, isUsable, same⟩
      rw [holds.other place apart, (FileTree.createDirs_grown start root).file_iff]
      refine ⟨.inl, ?_⟩
      rintro (isFile | ⟨key, text, stored, same, -⟩)
      · exact isFile
      · exact absurd same (apart key (usable key text stored))

/-! ## The files -/

/-- The file of a valid key, whether or not it is there. -/
theorem placeOf_path (valid : isKey key = true) (start : FileTree) (root : String) :
    start.placeOf (path root key) = filePlace start root key :=
  FileTree.placeOf_join (plain_fileName valid) start root

theorem lastWritten_valid (calls : List Call) (valid : isKey key = true) :
    (Memory.store.performAll (calls.filter fun call => isKey call.key) Memory.empty).2.find? key =
      lastWritten key calls := by
  rw [Memory.find?_performAll, lastWritten_filter valid]
  exact Option.or_none

/-- After some calls there are the files from before, and one for each valid key that was
written, with its last text. -/
theorem performAll_file_iff (fresh : Fresh start root) (calls : List Call)
    (usable : ∀ call ∈ calls, isKey call.key = true → Usable start root call.key)
    (place : List String) (bytes : ByteArray) :
    ((store root : Store (StateM FileTree)).performAll calls start).2.find? place =
        some (.file bytes) ↔
      start.find? place = some (.file bytes) ∨
        ∃ key text, isKey key = true ∧ lastWritten key calls = some text ∧
          place = filePlace start root key ∧ bytes = text.toUTF8 := by
  have begin : Mirrors start root Memory.empty start := .inl ⟨rfl, rfl⟩
  obtain ⟨-, final⟩ := performAll_mirrors fresh begin calls usable
  have isUsable (key text : String) (found : Table.find? key
      (Memory.store.performAll (calls.filter fun call => isKey call.key) Memory.empty).2 =
        some text) : Usable start root key := by
    rw [Memory.find?_performAll] at found
    rcases Option.or_eq_some_iff.mp found with written | ⟨-, empty⟩
    · obtain ⟨inside, valid⟩ := List.mem_filter.mp (mem_of_lastWritten written)
      exact usable _ inside valid
    · cases empty
  rw [final.file_iff fresh isUsable]
  apply or_congr Iff.rfl
  constructor
  · rintro ⟨key, text, found, isPlace, same⟩
    have valid := (isUsable key text found).valid
    rw [lastWritten_valid calls valid] at found
    exact ⟨key, text, valid, found, isPlace, same⟩
  · rintro ⟨key, text, valid, written, isPlace, same⟩
    rw [← lastWritten_valid calls valid] at written
    exact ⟨key, text, written, isPlace, same⟩

theorem invalidKey_toError (key : String) :
    (StoreFault.invalidKey key).toError =
      .persistence ("invalid snapshot key '" ++ key ++ "'") := rfl

/-- **A directory of files keeps texts as the memory does, and stays inside itself.**  Take a file
tree in which the directory is not there but can be created, and calls at whose paths the tree
does not refuse to look.  Whatever the calls are, those with valid keys are answered one by one as
the memory answers them alone; any other call is refused as invalid, which is a failure of the
store, and leaves every tree as it is.  Afterwards the files are those from before and, directly
in the directory, `<key>.json` for each valid key that was written, with its last text; no two
valid keys lead to one place. -/
theorem store_refines_memory (fresh : Fresh start root) (calls : List Call)
    (readable : ∀ call ∈ calls, isKey call.key = true →
      (start.createDirs root).2.Readable (path root call.key)) :
    ((store root : Store (StateM FileTree)).performAll calls start).1.filter
        (fun reply => isKey reply.1.key) =
      (Memory.store.performAll (calls.filter fun call => isKey call.key) Memory.empty).1 ∧
    (∀ (call : Call) (tree : FileTree), isKey call.key = false →
      (store root : Store (StateM FileTree)).perform call tree = (call.refusal, tree) ∧
      (StoreFault.invalidKey call.key).toError =
        .persistence ("invalid snapshot key '" ++ call.key ++ "'")) ∧
    (∀ (place : List String) (bytes : ByteArray),
      ((store root : Store (StateM FileTree)).performAll calls start).2.find? place =
          some (.file bytes) ↔
        start.find? place = some (.file bytes) ∨
          ∃ key text, isKey key = true ∧ lastWritten key calls = some text ∧
            place = start.placeOf root ++ [key ++ ".json"] ∧ bytes = text.toUTF8) ∧
    ∀ key other, isKey key = true → isKey other = true →
      start.placeOf (path root key) = start.placeOf root ++ [key ++ ".json"] ∧
      (start.placeOf (path root key) = start.placeOf (path root other) → key = other) := by
  have usable : ∀ call ∈ calls, isKey call.key = true → Usable start root call.key :=
    fun call inside valid => ⟨valid, readable call inside valid⟩
  have begin : Mirrors start root Memory.empty start := .inl ⟨rfl, rfl⟩
  refine ⟨(performAll_mirrors fresh begin calls usable).1, ?_, ?_, ?_⟩
  · intro call tree invalid
    exact ⟨perform_refused root call tree invalid, invalidKey_toError call.key⟩
  · exact performAll_file_iff fresh calls usable
  · intro key other valid otherValid
    rw [placeOf_path valid, placeOf_path otherValid]
    exact ⟨rfl, filePlace_injective⟩

/-- A tree with one directory, which works, and a file in it. -/
def sampleTree : FileTree :=
  { (FileTree.empty.put ["home"] .directory).put ["home", "notes.json"] (.file "old".toUTF8) with
    here := ["home"] }

/-- Two directories to create below the working one. -/
def sampleRoot : String := "work/./store/"

/-- The first call and the last would lead out of the directory. -/
def sampleCalls : List Call := [
  .write "../../notes" "new", .read "autosave", .write "autosave" "one", .write "row-2_b" "",
  .read "autosave", .write "autosave" "zwei Häkchen", .read "", .read "autosave",
  .read "../../notes"]

theorem fresh_sampleTree : Fresh sampleTree sampleRoot := by
  have home : (FileTree.empty.put ([] ++ ["home"]) .directory).Grounded :=
    FileTree.empty_grounded.put rfl rfl .directory
  have filled : ((FileTree.empty.put ["home"] .directory).put (["home"] ++ ["notes.json"])
      (.file "old".toUTF8)).Grounded := home.put rfl rfl _
  exact ⟨⟨rfl, filled.parent⟩, rfl, by decide +kernel⟩

theorem store_refines_memory_sampleCalls :
    Fresh sampleTree sampleRoot ∧
    (∀ call ∈ sampleCalls, isKey call.key = true →
      (sampleTree.createDirs sampleRoot).2.Readable (path sampleRoot call.key)) ∧
    ((store sampleRoot : Store (StateM FileTree)).performAll sampleCalls sampleTree).1.filter
        (fun reply => isKey reply.1.key) = [
      (.read "autosave", .found (.ok none)),
      (.write "autosave" "one", .wrote (.ok ())),
      (.write "row-2_b" "", .wrote (.ok ())),
      (.read "autosave", .found (.ok (some "one"))),
      (.write "autosave" "zwei Häkchen", .wrote (.ok ())),
      (.read "autosave", .found (.ok (some "zwei Häkchen")))] ∧
    ((store sampleRoot : Store (StateM FileTree)).performAll sampleCalls sampleTree).2.find?
      ["home", "work", "store", "autosave.json"] = some (.file "zwei Häkchen".toUTF8) ∧
    ((store sampleRoot : Store (StateM FileTree)).performAll sampleCalls sampleTree).2.find?
      ["home", "notes.json"] = some (.file "old".toUTF8) := by
  have missing : ∀ call ∈ sampleCalls, isKey call.key = true →
      (sampleTree.createDirs sampleRoot).2.read (path sampleRoot call.key) = .error .notFound := by
    decide +kernel
  have readable : ∀ call ∈ sampleCalls, isKey call.key = true →
      (sampleTree.createDirs sampleRoot).2.Readable (path sampleRoot call.key) :=
    fun call inside valid => .inr (missing call inside valid)
  obtain ⟨answered, -, files, -⟩ := store_refines_memory fresh_sampleTree sampleCalls readable
  refine ⟨fresh_sampleTree, readable, answered.trans rfl, ?_, ?_⟩
  · apply (files _ _).mpr
    exact .inr ⟨"autosave", _, by decide, by decide, by decide +kernel, rfl⟩
  · apply (files _ _).mpr
    exact .inl rfl

end Directory

end Crochet
