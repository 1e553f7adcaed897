/-
# Crochet.Proofs.FileTree -- walking in a file tree

Where a path leads can be told from its names alone, if it leads anywhere.  A
path that leads to a directory does so in every tree that keeps the
directories, and a plain name behind it leads to one place inside.  A tree that
grows has more directories and is otherwise the same, so a path that can be
walked in it could be walked before, or something was missing.
-/
import Crochet.FileTree
import Crochet.Proofs.Basic
import Crochet.Proofs.FilePath

set_option autoImplicit false

namespace Crochet

namespace FileTree

/-! ## Places -/

/-- Everything stands in a directory, and so does the one that works. -/
structure Grounded (tree : FileTree) : Prop where
  here : tree.find? tree.here = some .directory
  parent : ∀ (place : List String) (name : String) (node : Node),
    tree.find? (place ++ [name]) = some node → tree.find? place = some .directory

theorem find?_put {place : List String} (below : place ≠ []) (tree : FileTree) (node : Node)
    (other : List String) :
    (tree.put place node).find? other = if place = other then some node else tree.find? other := by
  cases other with
  | nil => simp [find?, below]
  | cons name names => exact Table.find?_insert place (name :: names) node tree.nodes

/-- Nothing stands under a place where nothing stands. -/
theorem Grounded.nothing_below {tree : FileTree} (grounded : tree.Grounded) {place : List String}
    (absent : tree.find? place = none) (names : List String) :
    tree.find? (place ++ names) = none := by
  induction names generalizing place with
  | nil => rwa [List.append_nil]
  | cons name names ih =>
      have below : tree.find? (place ++ [name]) = none := by
        by_contra stands
        obtain ⟨node, found⟩ := Option.ne_none_iff_exists'.mp stands
        rw [grounded.parent place name node found] at absent
        cases absent
      have later := ih below
      rwa [List.append_assoc] at later

theorem empty_grounded : empty.Grounded := ⟨rfl, fun place name node found => by
  cases place <;> cases found⟩

/-- What is put into a directory, where nothing stood, is grounded there. -/
theorem Grounded.put {tree : FileTree} (grounded : tree.Grounded) {place : List String}
    {name : String} (directory : tree.find? place = some .directory)
    (absent : tree.find? (place ++ [name]) = none) (node : Node) :
    (tree.put (place ++ [name]) node).Grounded := by
  have below : place ++ [name] ≠ [] := by simp
  have kept {other : List String} (isThere : tree.find? other = some .directory) :
      (tree.put (place ++ [name]) node).find? other = some .directory := by
    rw [find?_put below, if_neg]
    · exact isThere
    · rintro rfl
      rw [absent] at isThere
      cases isThere
  refine ⟨kept grounded.here, fun other last found stands => ?_⟩
  rw [find?_put below] at stands
  split at stands
  · rename_i same
    rw [← (List.append_inj' same rfl).1]
    exact kept directory
  · exact kept (grounded.parent other last found stands)

/-- Where a name leads from a directory. -/
def step (place : List String) (name : String) : List String :=
  if FilePath.isIdle name then place else if name = ".." then place.dropLast else place ++ [name]

/-- Where a path starts. -/
def origin (tree : FileTree) (path : String) : List String :=
  if FilePath.isAbsolute path then [] else tree.here

/-- The place of a path, whether or not anything stands there or on the way. -/
def placeOf (tree : FileTree) (path : String) : List String :=
  (FilePath.names path).foldl step (tree.origin path)

theorem origin_join {tree : FileTree} {path name : String} (plain : FilePath.Plain name) :
    tree.origin (FilePath.join path name) = tree.origin path := by
  rw [origin, FilePath.isAbsolute_join plain, origin]

theorem step_plain {name : String} (plain : FilePath.Plain name) (place : List String) :
    step place name = place ++ [name] := by
  simp [step, plain.moves, plain.stays]

/-- A plain name behind a path leads directly into its place. -/
theorem placeOf_join {name : String} (plain : FilePath.Plain name) (tree : FileTree)
    (path : String) : tree.placeOf (FilePath.join path name) = tree.placeOf path ++ [name] := by
  have idle (place : List String) : step place "" = place := rfl
  rw [placeOf, origin_join plain, placeOf]
  rcases FilePath.join_cases path name with ⟨rfl, joined⟩ | ⟨front, rfl, joined⟩ | ⟨-, joined⟩
  · rw [joined, plain.names_eq]
    exact step_plain plain _
  · have ended := FilePath.names_append front ""
    rw [String.append_empty] at ended
    rw [joined, FilePath.names_append, plain.names_eq, ended, List.foldl_append,
      List.foldl_append]
    exact step_plain plain _
  · rw [joined, FilePath.names_append, plain.names_eq, List.foldl_append]
    exact step_plain plain _

/-! ## Entering and following -/

variable {tree next : FileTree} {place goal : List String} {name path : String}
  {names : List String}

theorem directory_of_enter (entered : tree.enter place name = .ok goal) :
    tree.find? place = some .directory := by
  unfold enter at entered
  split at entered
  · cases entered
  · cases entered
  · assumption

theorem enter_of_directory (directory : tree.find? place = some .directory) (name : String) :
    tree.enter place name = if FilePath.isIdle name then .ok place
      else if name = ".." then .ok place.dropLast
      else if longestName < name.utf8ByteSize then .error .nameTooLong
      else .ok (place ++ [name]) := by
  simp [enter, directory]

theorem enter_idle (directory : tree.find? place = some .directory)
    (idle : FilePath.isIdle name = true) : tree.enter place name = .ok place := by
  rw [enter_of_directory directory, if_pos idle]

theorem enter_plain (directory : tree.find? place = some .directory)
    (plain : FilePath.Plain name) :
    tree.enter place name = if longestName < name.utf8ByteSize then .error .nameTooLong
      else .ok (place ++ [name]) := by
  rw [enter_of_directory directory]
  simp [plain.moves, plain.stays]

theorem eq_step_of_enter (entered : tree.enter place name = .ok goal) :
    goal = step place name := by
  rw [enter_of_directory (directory_of_enter entered)] at entered
  unfold step
  split_ifs at entered ⊢ with idle up long <;> cases entered <;> rfl

/-- The place that names lead to one after another. -/
def follow (tree : FileTree) (place : List String) (names : List String) :
    Except FileFault (List String) :=
  names.foldlM tree.enter place

theorem follow_cons_ok : tree.follow place (name :: names) = .ok goal ↔
    ∃ between, tree.enter place name = .ok between ∧ tree.follow between names = .ok goal := by
  rw [follow, List.foldlM_cons]
  exact Except.bind_eq_ok

theorem follow_append (tree : FileTree) (place : List String) (front back : List String) :
    tree.follow place (front ++ back) =
      (tree.follow place front >>= fun between => tree.follow between back) := by
  simp only [follow, List.foldlM_append]

theorem follow_concat (followed : tree.follow place names = .ok goal) (name : String) :
    tree.follow place (names ++ [name]) = tree.enter goal name := by
  rw [follow_append, followed]
  show tree.follow goal [name] = tree.enter goal name
  rw [follow, List.foldlM_cons]
  cases tree.enter goal name <;> rfl

theorem eq_foldl_of_follow (followed : tree.follow place names = .ok goal) :
    goal = names.foldl step place := by
  induction names generalizing place with
  | nil => exact (Except.ok.inj followed).symm
  | cons name names ih =>
      obtain ⟨between, entered, later⟩ := follow_cons_ok.mp followed
      rw [ih later, eq_step_of_enter entered]
      rfl

/-- Empty names can be left out. -/
theorem follow_filter (followed : tree.follow place names = .ok goal) :
    tree.follow place (names.filter fun name => !name.isEmpty) = .ok goal := by
  induction names generalizing place with
  | nil => exact followed
  | cons name names ih =>
      obtain ⟨between, entered, later⟩ := follow_cons_ok.mp followed
      rw [List.filter_cons]
      split
      · exact follow_cons_ok.mpr ⟨between, entered, ih later⟩
      · rename_i empty
        have idle : FilePath.isIdle name = true := FilePath.isIdle_of_isEmpty (by simpa using empty)
        rw [enter_idle (directory_of_enter entered) idle] at entered
        cases entered
        exact ih later

theorem directory_of_follow (followed : tree.follow place names = .ok goal)
    (directory : tree.find? goal = some .directory) : tree.find? place = some .directory := by
  cases names with
  | nil =>
      cases followed
      exact directory
  | cons name names =>
      obtain ⟨between, entered, -⟩ := follow_cons_ok.mp followed
      exact directory_of_enter entered

/-- Empty names can be put in on the way to a directory. -/
theorem follow_of_filter
    (followed : tree.follow place (names.filter fun name => !name.isEmpty) = .ok goal)
    (directory : tree.find? goal = some .directory) : tree.follow place names = .ok goal := by
  induction names generalizing place with
  | nil => exact followed
  | cons name names ih =>
      rw [List.filter_cons] at followed
      split at followed
      · obtain ⟨between, entered, later⟩ := follow_cons_ok.mp followed
        exact follow_cons_ok.mpr ⟨between, entered, ih later⟩
      · rename_i empty
        have idle : FilePath.isIdle name = true := FilePath.isIdle_of_isEmpty (by simpa using empty)
        have start := directory_of_follow followed directory
        exact follow_cons_ok.mpr ⟨place, enter_idle start idle, ih followed⟩

theorem enter_ne_isDirectory : tree.enter place name ≠ .error .isDirectory := by
  unfold enter
  split
  · exact nofun
  · exact nofun
  · split_ifs <;> exact nofun

theorem follow_ne_isDirectory : tree.follow place names ≠ .error .isDirectory := by
  induction names generalizing place with
  | nil => exact nofun
  | cons name names ih =>
      rw [follow, List.foldlM_cons]
      cases entered : tree.enter place name with
      | error fault =>
          intro same
          cases same
          exact enter_ne_isDirectory entered
      | ok between => exact ih

/-! ## Trees that grow -/

/-- The other tree has the directories of the first one. -/
structure Keeps (tree next : FileTree) : Prop where
  here : next.here = tree.here
  directory : ∀ place, tree.find? place = some .directory → next.find? place = some .directory

/-- The other tree has what the first one has, and besides directories only. -/
structure Grown (tree next : FileTree) : Prop where
  here : next.here = tree.here
  find? : ∀ place, next.find? place = tree.find? place ∨
    tree.find? place = none ∧ next.find? place = some .directory

theorem Grown.refl (tree : FileTree) : Grown tree tree := ⟨rfl, fun _ => .inl rfl⟩

theorem Grown.trans {last : FileTree} (first : Grown tree next) (second : Grown next last) :
    Grown tree last := by
  refine ⟨second.here.trans first.here, fun place => ?_⟩
  rcases first.find? place with same | ⟨absent, created⟩
  · rw [← same]
    exact second.find? place
  · rcases second.find? place with same | ⟨nothing, -⟩
    · exact .inr ⟨absent, same.trans created⟩
    · rw [created] at nothing
      cases nothing

theorem Grown.keeps (grown : Grown tree next) : Keeps tree next := by
  refine ⟨grown.here, fun place directory => ?_⟩
  rcases grown.find? place with same | ⟨-, created⟩
  · exact same.trans directory
  · exact created

theorem Grown.file_iff (grown : Grown tree next) (place : List String) (bytes : ByteArray) :
    next.find? place = some (.file bytes) ↔ tree.find? place = some (.file bytes) := by
  rcases grown.find? place with same | ⟨absent, created⟩
  · rw [same]
  · rw [absent, created]
    constructor <;> exact nofun

theorem enter_of_keeps (keeps : Keeps tree next) (entered : tree.enter place name = .ok goal) :
    next.enter place name = .ok goal := by
  have directory := directory_of_enter entered
  rw [enter_of_directory directory] at entered
  rwa [enter_of_directory (keeps.directory place directory)]

theorem follow_of_keeps (keeps : Keeps tree next) (followed : tree.follow place names = .ok goal) :
    next.follow place names = .ok goal := by
  induction names generalizing place with
  | nil => exact followed
  | cons name names ih =>
      obtain ⟨between, entered, later⟩ := follow_cons_ok.mp followed
      exact follow_cons_ok.mpr ⟨between, enter_of_keeps keeps entered, ih later⟩

/-- Names that can be followed in a grown tree could be followed before, or something was
missing. -/
theorem follow_of_grown (grown : Grown tree next) (followed : next.follow place names = .ok goal) :
    tree.follow place names = .ok goal ∨ tree.follow place names = .error .notFound := by
  induction names generalizing place with
  | nil => exact .inl followed
  | cons name names ih =>
      obtain ⟨between, entered, later⟩ := follow_cons_ok.mp followed
      have directory := directory_of_enter entered
      rcases grown.find? place with same | ⟨absent, -⟩
      · rw [same] at directory
        have before : tree.enter place name = .ok between := by
          rw [enter_of_directory directory, ← enter_of_directory (same.trans directory), entered]
        have step : tree.follow place (name :: names) = tree.follow between names := by
          rw [follow, List.foldlM_cons, before]
          rfl
        rw [step]
        exact ih later
      · right
        have missing : tree.enter place name = .error .notFound := by
          simp [enter, absent]
        rw [follow, List.foldlM_cons, missing]
        rfl

/-! ## Paths to directories -/

/-- What there is to read at a place. -/
def contents : Option Node → Except FileFault ByteArray
  | some (.file bytes) => .ok bytes
  | some .directory => .error .isDirectory
  | none => .error .notFound

theorem contents_eq_isDirectory {node : Option Node}
    (isDirectory : contents node = .error .isDirectory) : node = some .directory := by
  rcases node with none | (bytes | -)
  · cases isDirectory
  · cases isDirectory
  · rfl

theorem read_eq (tree : FileTree) (path : String) : tree.read path =
    (tree.walk path (FilePath.names path) >>= fun place => contents (tree.find? place)) := by
  unfold read contents
  rfl

/-- The path leads to a directory at this place. -/
structure Opens (tree : FileTree) (path : String) (place : List String) : Prop where
  filled : path.isEmpty = false
  short : path.utf8ByteSize ≤ longestPath
  followed : tree.follow (tree.origin path) (FilePath.names path) = .ok place
  directory : tree.find? place = some .directory

theorem walk_eq (filled : path.isEmpty = false) (names : List String) :
    tree.walk path names = if longestPath < path.utf8ByteSize then .error .nameTooLong
      else tree.follow (tree.origin path) names := by
  rw [walk, filled]
  rfl

theorem of_walk_ok (walked : tree.walk path names = .ok goal) :
    path.isEmpty = false ∧ path.utf8ByteSize ≤ longestPath ∧
      tree.follow (tree.origin path) names = .ok goal := by
  unfold walk at walked
  split_ifs at walked with empty long absolute
  · exact ⟨by simpa using empty, by omega, by rwa [origin, if_pos absolute]⟩
  · exact ⟨by simpa using empty, by omega, by rwa [origin, if_neg absolute]⟩

theorem Opens.walk_eq {place : List String} (opens : tree.Opens path place)
    (names : List String) : tree.walk path names = tree.follow (tree.origin path) names := by
  rw [FileTree.walk_eq opens.filled, if_neg (by have := opens.short; omega)]

theorem Opens.place_eq {place : List String} (opens : tree.Opens path place) :
    place = tree.placeOf path := eq_foldl_of_follow opens.followed

theorem Opens.of_keeps {place : List String} (keeps : Keeps tree next)
    (opens : tree.Opens path place) : next.Opens path place where
  filled := opens.filled
  short := opens.short
  followed := by
    have same : next.origin path = tree.origin path := by rw [origin, keeps.here, origin]
    rw [same]
    exact follow_of_keeps keeps opens.followed
  directory := keeps.directory place opens.directory

theorem Opens.read_eq {place : List String} (opens : tree.Opens path place) :
    tree.read path = .error .isDirectory := by
  rw [FileTree.read_eq, opens.walk_eq, opens.followed]
  show contents (tree.find? place) = .error .isDirectory
  rw [opens.directory]
  rfl

theorem opens_of_read (isThere : tree.read path = .error .isDirectory) :
    ∃ place, tree.Opens path place := by
  rw [read_eq] at isThere
  cases walked : tree.walk path (FilePath.names path) with
  | error fault =>
      -- a walk fails otherwise
      rw [walked] at isThere
      cases isThere
      unfold walk at walked
      split_ifs at walked
      · cases walked
      · cases walked
      · exact absurd walked follow_ne_isDirectory
      · exact absurd walked follow_ne_isDirectory
  | ok place =>
      rw [walked] at isThere
      obtain ⟨filled, short, followed⟩ := of_walk_ok walked
      have found : contents (tree.find? place) = .error .isDirectory := isThere
      exact ⟨place, filled, short, followed, contents_eq_isDirectory found⟩

end FileTree

end Crochet
