/-
# Crochet.Proofs.FileTree.Changes -- what creating and writing change

A directory is created with all that lead to it by adding directories only.
Where that works the path leads to a directory from then on, and to create it
once more changes nothing.  A file under a plain name behind such a path is
read by one look-up and written by one entry, at the place of the path with
the name behind it.
-/
import Crochet.Proofs.FileTree

set_option autoImplicit false

namespace Crochet.FileTree

variable {tree next : FileTree} {place goal : List String} {name path : String}

theorem follow_append_ok {front back : List String} :
    tree.follow place (front ++ back) = .ok goal ↔
      ∃ between, tree.follow place front = .ok between ∧ tree.follow between back = .ok goal := by
  rw [follow_append]
  exact Except.bind_eq_ok

theorem put_grown (absent : tree.find? place = none) : Grown tree (tree.put place .directory) := by
  have below : place ≠ [] := by
    rintro rfl
    cases absent
  refine ⟨rfl, fun other => ?_⟩
  rw [find?_put below]
  split
  · rename_i same
    rw [← same]
    exact .inr ⟨absent, rfl⟩
  · exact .inl rfl

theorem put_keeps (below : place ≠ []) (free : tree.find? place ≠ some .directory)
    (node : Node) : Keeps tree (tree.put place node) := by
  refine ⟨rfl, fun other directory => ?_⟩
  rw [find?_put below, if_neg]
  · exact directory
  · rintro rfl
    exact free directory

/-! ## Targets -/

/-- The target of a path to a directory: its last name, if that is one, leads there. -/
theorem Opens.target (opens : tree.Opens path place) :
    ∃ directory last, tree.target path = .ok (directory, last) ∧
      ∀ name, last = some name → tree.enter directory name = .ok place := by
  have followed : tree.follow (tree.origin path) (FilePath.steps path) = .ok place :=
    follow_filter opens.followed
  unfold FileTree.target
  split
  · rw [opens.walk_eq]
    exact ⟨_, none, rfl, nofun⟩
  · rename_i last before reversed
    have shape : FilePath.steps path = before.reverse ++ [last] :=
      List.reverse_eq_cons_iff.mp reversed
    rw [shape] at followed
    obtain ⟨between, front, -⟩ := follow_append_ok.mp followed
    rw [follow_concat front] at followed
    have stay : tree.enter between "." = .ok between :=
      enter_idle (directory_of_enter followed) (by decide)
    rw [opens.walk_eq, follow_concat front, stay]
    refine ⟨between, _, rfl, fun name isLast => ?_⟩
    split_ifs at isLast
    cases isLast
    exact followed

/-- A target with a name: the path goes through the directory to where the name leads. -/
theorem target_ok {directory : List String}
    (targeted : tree.target path = .ok (directory, some name)) :
    path.isEmpty = false ∧ path.utf8ByteSize ≤ longestPath ∧
      tree.follow (tree.origin path) (FilePath.steps path) = tree.enter directory name := by
  unfold target at targeted
  split at targeted
  · obtain ⟨between, -, same⟩ := Except.bind_eq_ok.mp targeted
    cases same
  · rename_i last before reversed
    have shape : FilePath.steps path = before.reverse ++ [last] :=
      List.reverse_eq_cons_iff.mp reversed
    obtain ⟨between, walked, same⟩ := Except.bind_eq_ok.mp targeted
    obtain ⟨filled, short, followed⟩ := of_walk_ok walked
    obtain ⟨first, front, stayed⟩ := follow_append_ok.mp followed
    obtain ⟨second, entered, done⟩ := follow_cons_ok.mp stayed
    have idle : FilePath.isIdle "." = true := by decide
    rw [enter_idle (directory_of_enter entered) idle] at entered
    cases entered
    cases done
    split_ifs at same
    · cases same
    · cases same
      exact ⟨filled, short, by rw [shape, follow_concat front]⟩

/-! ## Creating one directory -/

theorem Opens.createDir (opens : tree.Opens path place) :
    tree.createDir path = .error .alreadyExists := by
  obtain ⟨directory, last, targeted, leads⟩ := opens.target
  cases last with
  | none => simp only [FileTree.createDir, targeted, bind, Except.bind]
  | some name =>
      simp only [FileTree.createDir, targeted, bind, Except.bind, leads name rfl, opens.directory]

theorem createDir_ok (created : tree.createDir path = .ok next) :
    Grown tree next ∧ ∃ place, next.Opens path place := by
  unfold createDir at created
  obtain ⟨⟨directory, last⟩, targeted, made⟩ := Except.bind_eq_ok.mp created
  cases last with
  | none => cases made
  | some name =>
      obtain ⟨place, entered, put⟩ := Except.bind_eq_ok.mp made
      obtain ⟨filled, short, followed⟩ := target_ok targeted
      rw [entered] at followed
      cases stands : tree.find? place with
      | some node =>
          rw [stands] at put
          cases put
      | none =>
          rw [stands] at put
          cases put
          have grown : Grown tree (tree.put place .directory) := put_grown stands
          have below : place ≠ [] := by
            rintro rfl
            cases stands
          have isThere : (tree.put place .directory).find? place = some .directory := by
            rw [find?_put below, if_pos rfl]
          have again : (tree.put place .directory).follow (tree.origin path)
              (FilePath.steps path) = .ok place := follow_of_keeps grown.keeps followed
          exact ⟨grown, place, filled, short, follow_of_filter again isThere, isThere⟩

/-! ## Creating all that lead to a directory -/

/-- One attempt at a directory; it does not matter if that is there. -/
def settle (tree : FileTree) (path : String) : Except FileFault Unit × FileTree :=
  match tree.createDir path with
  | .ok next => (.ok (), next)
  | .error fault => match tree.read path with
    | .error .isDirectory => (.ok (), tree)
    | _ => (.error fault, tree)

/-- The first of some directories, each of them the parent of the one before it, as a change of
the tree. -/
def createFirst (tree : FileTree) (paths : List String) : Except FileFault Unit × FileTree :=
  (Files.createFirst paths : StateM FileTree (Except FileFault Unit)) tree

/-- The directory of a path, and all that lead to it, as a change of the tree. -/
def createDirs (tree : FileTree) (path : String) : Except FileFault Unit × FileTree :=
  tree.createFirst (FilePath.ancestors path)

theorem unlessThere_error (tree : FileTree) (path : String) (fault : FileFault) :
    (Files.unlessThere path (.error fault) : StateM FileTree (Except FileFault Unit)) tree =
      match tree.read path with
      | .error .isDirectory => (.ok (), tree)
      | _ => (.error fault, tree) := by
  have looked : (Files.read path : StateM FileTree (Except FileFault ByteArray)) tree =
      (tree.read path, tree) := rfl
  simp only [Files.unlessThere, Files.isDirectory, bind, StateT.bind, looked]
  cases tree.read path with
  | ok bytes => rfl
  | error fault => cases fault <;> rfl

theorem createFirst_cons (tree : FileTree) (path : String) (above : List String) :
    tree.createFirst (path :: above) = match tree.createDir path with
      | .error .notFound => match tree.createFirst above with
        | (.ok (), next) => next.settle path
        | (.error fault, next) => (.error fault, next)
      | _ => tree.settle path := by
  have attempt (tree : FileTree) : (do Files.unlessThere path (← Files.createDir path) :
      StateM FileTree (Except FileFault Unit)) tree = tree.settle path := by
    simp only [bind, StateT.bind, Files.createDir, modifyGet, MonadStateOf.modifyGet,
      StateT.modifyGet, settle]
    cases tree.createDir path with
    | ok next => rfl
    | error fault => exact unlessThere_error tree path fault
  simp only [createFirst, Files.createFirst, bind, StateT.bind, Files.createDir, modifyGet,
    MonadStateOf.modifyGet, StateT.modifyGet]
  cases made : tree.createDir path with
  | ok next =>
      rw [settle, made]
      rfl
  | error fault =>
      have here : (Files.unlessThere path (.error fault) :
          StateM FileTree (Except FileFault Unit)) tree = tree.settle path := by
        rw [settle, made]
        exact unlessThere_error tree path fault
      cases fault with
      | notFound =>
          cases climbed :
              (Files.createFirst above : StateM FileTree (Except FileFault Unit)) tree with
          | mk result next =>
              simp only [changed, pure, StateT.bind, bind, climbed]
              cases result with
              | ok done => exact attempt next
              | error fault => rfl
      | _ => exact here

theorem settle_grown (tree : FileTree) (path : String) : Grown tree (tree.settle path).2 := by
  unfold settle
  split
  · rename_i next created
    exact (createDir_ok created).1
  · split <;> exact Grown.refl tree

theorem settle_opens (worked : (tree.settle path).1 = .ok ()) :
    ∃ place, (tree.settle path).2.Opens path place := by
  unfold settle at worked ⊢
  split at worked
  · rename_i next created
    exact (createDir_ok created).2
  · split at worked
    · rename_i isThere
      exact opens_of_read isThere
    · cases worked

theorem createFirst_grown (tree : FileTree) (paths : List String) :
    Grown tree (tree.createFirst paths).2 := by
  induction paths with
  | nil => exact Grown.refl tree
  | cons path above ih =>
      rw [createFirst_cons]
      split
      · split
        · rename_i next made
          rw [made] at ih
          exact ih.trans (settle_grown next path)
        · rename_i fault next made
          rw [made] at ih
          exact ih
      · exact settle_grown tree path

theorem createFirst_opens {above : List String}
    (worked : (tree.createFirst (path :: above)).1 = .ok ()) :
    ∃ place, (tree.createFirst (path :: above)).2.Opens path place := by
  rw [createFirst_cons] at worked ⊢
  split at worked
  · split at worked
    · exact settle_opens worked
    · cases worked
  · exact settle_opens worked

/-! ## The directory of a path -/

theorem createDirs_grown (tree : FileTree) (path : String) : Grown tree (tree.createDirs path).2 :=
  createFirst_grown tree _

theorem createDirs_of_opens (opens : tree.Opens path place) :
    tree.createDirs path = (.ok (), tree) := by
  rcases FilePath.ancestors_cases path with ⟨none, -⟩ | ⟨above, some⟩
  · rw [createDirs, none]
    rfl
  · have isThere := opens.read_eq
    rw [createDirs, some, createFirst_cons, opens.createDir, settle, opens.createDir, isThere]

/-- A path without a parent leads nowhere but to where it starts. -/
theorem placeOf_of_parent?_none (top : FilePath.parent? path = none) :
    tree.placeOf path = tree.origin path := by
  have stay (names : List String) (idle : ∀ name ∈ names, FilePath.isIdle name = true)
      (place : List String) : names.foldl step place = place := by
    induction names with
    | nil => rfl
    | cons name names ih =>
        rw [List.foldl_cons, step, if_pos (idle name List.mem_cons_self)]
        exact ih fun other inside => idle other (List.mem_cons_of_mem name inside)
  exact stay _ (FilePath.idle_of_parent?_eq_none top) _

/-- Where nothing stood and all that leads there can be created, the path leads to a directory
afterwards. -/
theorem createDirs_opens (grounded : tree.Grounded) (absent : tree.find? (tree.placeOf path) = none)
    (worked : (tree.createDirs path).1 = .ok ()) :
    (tree.createDirs path).2.Opens path (tree.placeOf path) := by
  rcases FilePath.ancestors_cases path with ⟨-, top⟩ | ⟨above, some⟩
  · rw [placeOf_of_parent?_none top, origin] at absent
    split at absent
    · cases absent
    · rw [grounded.here] at absent
      cases absent
  · rw [createDirs, some] at worked
    obtain ⟨place, opens⟩ := createFirst_opens worked
    rw [← some, ← createDirs] at opens
    have same : tree.placeOf path = (tree.createDirs path).2.placeOf path := by
      rw [placeOf, placeOf, origin, origin, (createDirs_grown tree path).here]
    rw [same, ← opens.place_eq]
    exact opens

/-! ## Files under plain names -/

/-- The name and the path with the name behind it are within the greatest lengths. -/
def Fits (path name : String) : Prop :=
  (FilePath.join path name).utf8ByteSize ≤ longestPath ∧ name.utf8ByteSize ≤ longestName

theorem follow_join (opens : tree.Opens path place) (plain : FilePath.Plain name) :
    tree.follow (tree.origin (FilePath.join path name))
        (FilePath.names (FilePath.join path name)) = tree.enter place name := by
  rw [origin_join plain]
  have followed := opens.followed
  rcases FilePath.join_cases path name with ⟨rfl, joined⟩ | ⟨front, rfl, joined⟩ | ⟨-, joined⟩
  · exact absurd opens.filled (by decide)
  · have ended := FilePath.names_append front ""
    rw [String.append_empty] at ended
    rw [ended] at followed
    obtain ⟨between, led, stayed⟩ := follow_append_ok.mp followed
    obtain ⟨last, entered, done⟩ := follow_cons_ok.mp stayed
    rw [enter_idle (directory_of_enter entered) (by decide)] at entered
    cases entered
    cases done
    rw [joined, FilePath.names_append, plain.names_eq, follow_concat led]
  · rw [joined, FilePath.names_append, plain.names_eq, follow_concat followed]

theorem enter_fits (opens : tree.Opens path place) (plain : FilePath.Plain name)
    (fits : Fits path name) : tree.enter place name = .ok (place ++ [name]) := by
  rw [enter_plain opens.directory plain, if_neg (Nat.not_lt.mpr fits.2)]

theorem walk_join (opens : tree.Opens path place) (plain : FilePath.Plain name)
    (fits : Fits path name) :
    tree.walk (FilePath.join path name) (FilePath.names (FilePath.join path name)) =
      .ok (place ++ [name]) := by
  rw [walk_eq (FilePath.isEmpty_join plain), if_neg (Nat.not_lt.mpr fits.1),
    follow_join opens plain, enter_fits opens plain fits]

theorem read_join (opens : tree.Opens path place) (plain : FilePath.Plain name)
    (fits : Fits path name) :
    tree.read (FilePath.join path name) = contents (tree.find? (place ++ [name])) := by
  rw [read_eq, walk_join opens plain fits]
  rfl

theorem target_join (opens : tree.Opens path place) (plain : FilePath.Plain name)
    (short : (FilePath.join path name).utf8ByteSize ≤ longestPath) :
    tree.target (FilePath.join path name) = .ok (place, some name) := by
  have steps : tree.follow (tree.origin path) (FilePath.steps path) = .ok place :=
    follow_filter opens.followed
  have walked : tree.walk (FilePath.join path name) (FilePath.steps path ++ ["."]) =
      .ok place := by
    rw [walk_eq (FilePath.isEmpty_join plain), if_neg (Nat.not_lt.mpr short), origin_join plain,
      follow_concat steps]
    exact enter_idle opens.directory (by decide)
  have reversed : (FilePath.steps (FilePath.join path name)).reverse =
      name :: (FilePath.steps path).reverse := by
    rw [FilePath.steps_join plain, List.reverse_concat]
  have proper : ¬(name = "." ∨ name = "..") := by
    rintro (dot | dots)
    · exact plain.ne_dot dot
    · exact plain.stays dots
  rw [target, reversed]
  show (tree.walk (FilePath.join path name) ((FilePath.steps path).reverse.reverse ++ ["."]) >>=
    fun place => .ok (place, if name = "." ∨ name = ".." then none else some name)) = _
  rw [List.reverse_reverse, walked, if_neg proper]
  rfl

theorem write_join (opens : tree.Opens path place) (plain : FilePath.Plain name)
    (fits : Fits path name) (free : tree.find? (place ++ [name]) ≠ some .directory)
    (bytes : ByteArray) :
    tree.write (FilePath.join path name) bytes =
      .ok (tree.put (place ++ [name]) (.file bytes)) := by
  cases stands : tree.find? (place ++ [name]) with
  | none =>
      simp only [write, target_join opens plain fits.1, FilePath.namesDirectory_join plain,
        enter_fits opens plain fits, bind, Except.bind, Bool.false_eq_true, if_false, stands]
  | some node =>
      cases node with
      | directory => exact absurd stands free
      | file old =>
          simp only [write, target_join opens plain fits.1, FilePath.namesDirectory_join plain,
            enter_fits opens plain fits, bind, Except.bind, Bool.false_eq_true, if_false, stands]

/-- A file that could be written stands in a directory that the path leads to. -/
theorem opens_of_write (filled : path.isEmpty = false) (plain : FilePath.Plain name)
    {bytes : ByteArray} (written : tree.write (FilePath.join path name) bytes = .ok next) :
    ∃ place, tree.Opens path place ∧ Fits path name ∧
      tree.find? (place ++ [name]) ≠ some .directory := by
  unfold write at written
  obtain ⟨⟨directory, last⟩, targeted, made⟩ := Except.bind_eq_ok.mp written
  cases last with
  | none => cases made
  | some last =>
      simp only [FilePath.namesDirectory_join plain, Bool.false_eq_true, if_false] at made
      obtain ⟨goal, entered, put⟩ := Except.bind_eq_ok.mp made
      obtain ⟨-, short, followed⟩ := target_ok targeted
      rw [FilePath.steps_join plain, origin_join plain, entered] at followed
      obtain ⟨place, led, stepped⟩ := follow_append_ok.mp followed
      obtain ⟨between, inside, done⟩ := follow_cons_ok.mp stepped
      cases done
      have isDirectory := directory_of_enter inside
      rw [enter_plain isDirectory plain] at inside
      split_ifs at inside with long
      cases inside
      have shorter : path.utf8ByteSize ≤ (FilePath.join path name).utf8ByteSize := by
        rcases FilePath.join_cases path name with ⟨rfl, -⟩ | ⟨front, rfl, joined⟩ | ⟨-, joined⟩
        · exact absurd filled (by decide)
        · simp only [joined, String.utf8ByteSize_append]
          omega
        · simp only [joined, String.utf8ByteSize_append]
          omega
      refine ⟨place, ⟨filled, shorter.trans short, follow_of_filter led isDirectory, isDirectory⟩,
        ⟨short, Nat.not_lt.mp long⟩, fun occupied => ?_⟩
      rw [occupied] at put
      cases put

/-- Before the directories that lead to a file are there, no file is read. -/
theorem read_join_of_grown (grown : Grown tree next) (opens : next.Opens path place)
    (plain : FilePath.Plain name) (fits : Fits path name)
    (absent : tree.find? (place ++ [name]) = none) :
    tree.read (FilePath.join path name) = .error .notFound := by
  have origin : next.origin (FilePath.join path name) = tree.origin (FilePath.join path name) := by
    rw [FileTree.origin, grown.here, FileTree.origin]
  have followed := follow_join opens plain
  rw [enter_fits opens plain fits, origin] at followed
  rw [read_eq, walk_eq (FilePath.isEmpty_join plain), if_neg (Nat.not_lt.mpr fits.1)]
  rcases follow_of_grown grown followed with led | missing
  · rw [led]
    show contents (tree.find? (place ++ [name])) = .error .notFound
    rw [absent]
    rfl
  · rw [missing]
    rfl

/-- A read of the path finds a file, or that there is none; nothing refuses to look. -/
def Readable (tree : FileTree) (path : String) : Prop :=
  (∃ bytes, tree.read path = .ok bytes) ∨ tree.read path = .error .notFound

theorem Readable.read_ne (readable : tree.Readable path) {fault : FileFault}
    (other : fault ≠ .notFound) : tree.read path ≠ .error fault := by
  intro refused
  rcases readable with ⟨bytes, isFile⟩ | missing
  · rw [isFile] at refused
    cases refused
  · rw [missing] at refused
    cases refused
    exact other rfl

theorem Readable.fits (readable : tree.Readable (FilePath.join path name))
    (opens : tree.Opens path place) (plain : FilePath.Plain name) : Fits path name := by
  by_contra unfit
  have refuses : FileFault.nameTooLong ≠ .notFound := by decide
  apply readable.read_ne refuses
  rw [read_eq, walk_eq (FilePath.isEmpty_join plain), follow_join opens plain,
    enter_plain opens.directory plain]
  by_cases long : longestPath < (FilePath.join path name).utf8ByteSize
  · rw [if_pos long]
    rfl
  · have longName : longestName < name.utf8ByteSize := by
      by_contra short
      exact unfit ⟨Nat.not_lt.mp long, Nat.not_lt.mp short⟩
    rw [if_neg long, if_pos longName]
    rfl

theorem Readable.free (readable : tree.Readable (FilePath.join path name))
    (opens : tree.Opens path place) (plain : FilePath.Plain name) :
    tree.find? (place ++ [name]) ≠ some .directory := by
  intro occupied
  have found := read_join opens plain (readable.fits opens plain)
  rw [occupied] at found
  have refuses : FileFault.isDirectory ≠ .notFound := by decide
  exact readable.read_ne refuses found

end Crochet.FileTree
