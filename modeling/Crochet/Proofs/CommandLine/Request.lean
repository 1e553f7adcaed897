/-
# Crochet.Proofs.CommandLine.Request -- asking for what one wants

Options that are written out, each in one argument with its value behind `=`,
are collected as they are, so a session can be asked for with any source, any
limit that is a machine word and any directory.  Conversely a request names a
directory only if the directory has a name.
-/
import Crochet.CommandLine.Request
import Crochet.Proofs.Text.Cuts
import Crochet.Proofs.Text.Digits

set_option autoImplicit false

namespace Crochet.CommandLine

/-! ## Options -/

/-- An option as one argument. -/
def written : String × Option String → String
  | (name, none) => "--" ++ name
  | (name, some value) => "--" ++ name ++ "=" ++ value

/-- An option that may be given, under a name that can be told from a value. -/
structure Options.Allows (options : Options) (option : String × Option String) : Prop where
  filled : option.1 ≠ ""
  plain : '=' ∉ option.1.toList
  listed : option.1 ∈ if option.2.isSome then options.valued else options.flags

/-- All names of options can be told from values. -/
def Options.Plain (options : Options) : Prop :=
  ∀ name ∈ options.flags ++ options.valued, name ≠ "" ∧ '=' ∉ name.toList

theorem Options.Plain.flag {options : Options} (plain : options.Plain) {name : String}
    (listed : name ∈ options.flags) : options.Allows (name, none) :=
  have named := plain name (List.mem_append_left _ listed)
  ⟨named.1, named.2, listed⟩

theorem Options.Plain.valued {options : Options} (plain : options.Plain) {name : String}
    (listed : name ∈ options.valued) (value : String) : options.Allows (name, some value) :=
  have named := plain name (List.mem_append_right _ listed)
  ⟨named.1, named.2, listed⟩

/-- An option is told from its argument, with its value if it has one. -/
theorem option?_written {option : String × Option String} (plain : '=' ∉ option.1.toList) :
    option? (written option) = some option := by
  obtain ⟨name, value⟩ := option
  have all : ∀ c ∈ name.toList, (decide (c ≠ '=')) = true := by
    intro c inside
    rw [decide_eq_true_eq]
    rintro rfl
    exact plain inside
  cases value with
  | none =>
      have stops : Text.Stops (· ≠ '=') [] := by simp [Text.Stops]
      have front := Text.takeWhile_run all stops
      have back := Text.dropWhile_run all stops
      have chars : (written (name, none)).toList = '-' :: '-' :: (name.toList ++ []) := by
        simp [written]
      simp only [option?, chars, front, back, String.ofList_toList]
  | some value =>
      have stops : Text.Stops (· ≠ '=') ('=' :: value.toList) := by simp [Text.Stops]
      have front := Text.takeWhile_run all stops
      have back := Text.dropWhile_run all stops
      have chars : (written (name, some value)).toList =
          '-' :: '-' :: (name.toList ++ '=' :: value.toList) := by simp [written]
      simp only [option?, chars, front, back, String.ofList_toList]

theorem written_ne {option : String × Option String} (filled : option.1 ≠ "") :
    written option ≠ "--" := by
  obtain ⟨name, value⟩ := option
  intro same
  have chars := congrArg (fun text => text.toList.length) same
  have some : name.toList.length ≠ 0 := by
    intro empty
    exact filled (String.toList_eq_nil_iff.mp (List.length_eq_zero_iff.mp empty))
  have two : "--".toList.length = 2 := by decide
  cases value with
  | none =>
      simp only [written, String.toList_append, List.length_append, two] at chars
      omega
  | some value =>
      simp only [written, String.toList_append, List.length_append, two] at chars
      omega

/-- Options that are written out are collected as they are. -/
theorem collect?_written {options : Options} {given : Given}
    (allowed : ∀ option ∈ given, options.Allows option) :
    options.collect? (given.map written) = some given := by
  induction given with
  | nil => rfl
  | cons option rest ih =>
      have later := ih fun other inside => allowed other (List.mem_cons_of_mem option inside)
      obtain ⟨filled, plain, listed⟩ := allowed option List.mem_cons_self
      have isOption := option?_written plain
      obtain ⟨name, value⟩ := option
      rw [List.map_cons, Options.collect?, isOption, later]
      · cases value with
        | none =>
            simp only [Option.isSome_none, Bool.false_eq_true, if_false] at listed
            simp only [if_pos listed, Option.map_some]
        | some value =>
            simp only [Option.isSome_some, if_true] at listed
            simp only [if_pos listed, Option.map_some]
      · exact fun same => absurd same (written_ne filled)

theorem read?_written {options : Options} {given : Given}
    (allowed : ∀ option ∈ given, options.Allows option) (once : (given.map Prod.fst).Nodup) :
    options.read? (given.map written) = some given := by
  simp [Options.read?, collect?_written allowed, once]

/-! ## Sessions -/

/-- The options of a session to play. -/
def playOptions (source : Source) (limit : Option Nat) (config : Option String) (root : String)
    (save : Bool) : Given :=
  [("in", some source.path), ("store", some root)] ++
    (if source.terms = .uk then [("uk", none)] else []) ++
    (limit.map fun rounds => ("rounds", some rounds.repr)).toList ++
    (config.map fun path => ("config", some path)).toList ++
    (if save then [("save", none)] else [])

/-- The command line of a session to play. -/
def playLine (source : Source) (limit : Option Nat) (config : Option String) (root : String)
    (save : Bool) : List String :=
  "play" :: (playOptions source limit config root save).map written

/-- The command line to take up a session. -/
def resumeLine (root : String) (config : Option String) : List String :=
  "resume" :: ([("store", some root)] ++
    (config.map fun path => ("config", some path)).toList).map written

theorem path?_filled {path : String} (filled : path ≠ "") : path? path = some path := by
  have some : path.isEmpty = false := by
    rw [← Bool.not_eq_true, String.isEmpty_iff]
    exact filled
  rw [path?, some]
  rfl

theorem filled_of_path? {value path : String} (read : path? value = some path) :
    path.isEmpty = false := by
  unfold path? at read
  split at read
  · cases read
  · rename_i filled
    obtain rfl := Option.some.inj read
    simpa using filled

theorem rounds?_repr {rounds : Nat} (word : rounds < UInt64.size) :
    rounds? rounds.repr = some rounds := by
  have ascii : (Nat.toDigits 10 rounds).all Text.isAsciiDigit = true :=
    List.all_eq_true.mpr fun c inside => Text.isAsciiDigit_of_mem_toDigits inside
  have unsigned : ∀ rest, Nat.toDigits 10 rounds ≠ '+' :: rest := by
    intro rest shape
    rw [shape] at ascii
    simp [Text.isAsciiDigit] at ascii
  have filled : (Nat.toDigits 10 rounds).isEmpty = false :=
    List.isEmpty_eq_false_iff.mpr Nat.toDigits_ne_nil
  have value : Text.decimalValue? (Nat.toDigits 10 rounds) = some rounds := by
    rw [Text.decimalValue?, filled, ascii, Nat.ofDigitChars_toDigits (by decide) (by decide)]
    rfl
  simp only [rounds?, Nat.toList_repr, value]
  simp [word]

variable {source : Source} {limit : Option Nat} {config : Option String} {root : String}
  {save : Bool}

/-- The options of the command that plays. -/
def playing : Options := ⟨["uk", "save"], ["in", "rounds", "config", "store"]⟩

/-- The options of the command that resumes. -/
def resuming : Options := ⟨[], ["store", "config"]⟩

theorem playing_plain : playing.Plain := by unfold Options.Plain; decide

theorem resuming_plain : resuming.Plain := by unfold Options.Plain; decide

theorem playOptions_allowed :
    ∀ option ∈ playOptions source limit config root save, playing.Allows option := by
  intro option inside
  simp only [playOptions, List.mem_append, List.mem_cons, List.not_mem_nil, or_false,
    Option.mem_toList, Option.map_eq_some_iff] at inside
  rcases inside with ((((rfl | rfl) | uk) | ⟨rounds, -, rfl⟩) | ⟨path, -, rfl⟩) | save
  · exact playing_plain.valued (by decide) _
  · exact playing_plain.valued (by decide) _
  · split at uk
    · rw [List.mem_singleton.mp uk]
      exact playing_plain.flag (by decide)
    · cases uk
  · exact playing_plain.valued (by decide) _
  · exact playing_plain.valued (by decide) _
  · split at save
    · rw [List.mem_singleton.mp save]
      exact playing_plain.flag (by decide)
    · cases save

theorem playOptions_once : ((playOptions source limit config root save).map Prod.fst).Nodup := by
  obtain ⟨path, terms⟩ := source
  cases terms <;> cases limit <;> cases config <;> cases save <;> simp [playOptions]

/-- What the options of a session to play say. -/
theorem playOptions_values (source : Source) (limit : Option Nat) (config : Option String)
    (root : String) (save : Bool) :
    let given := playOptions source limit config root save
    given.value? "in" = some source.path ∧ given.value? "store" = some root ∧
      given.value? "rounds" = limit.map Nat.repr ∧ given.value? "config" = config ∧
      Terminology.ofUsFlag (!given.flag "uk") = source.terms ∧ given.flag "save" = save := by
  obtain ⟨path, terms⟩ := source
  cases terms <;> cases limit <;> cases config <;> cases save <;>
    simp [playOptions, Given.value?, Given.flag, List.lookup_cons, Terminology.ofUsFlag]

theorem optional?_path {given : Given} {name : String} {path : Option String}
    (value : given.value? name = path) (filled : ∀ text ∈ path, text ≠ "") :
    given.optional? name path? = some path := by
  rw [Given.optional?, value]
  cases path with
  | none => rfl
  | some text => simp [path?_filled (filled text rfl)]

/-- **Every session can be asked for**: every source, every limit that is a machine word, with or
without settings, every directory, with or without saving. -/
theorem ofArguments?_playLine (path : source.path ≠ "") (filled : root ≠ "")
    (words : ∀ rounds ∈ limit, rounds < UInt64.size) (configs : ∀ path ∈ config, path ≠ "") :
    Request.ofArguments? (playLine source limit config root save) =
      some (.play source limit config (some root) save) := by
  have read : playing.read? ((playOptions source limit config root save).map written) =
      some (playOptions source limit config root save) :=
    read?_written playOptions_allowed playOptions_once
  have isPlay : Request.ofArguments? (playLine source limit config root save) =
      play? ((playOptions source limit config root save).map written) := by
    have other : ¬ asksVersion "play" = true := by decide +kernel
    rw [playLine, Request.ofArguments?, if_neg other]
  obtain ⟨isPath, isRoot, isLimit, isConfig, terms, isSave⟩ :=
    playOptions_values source limit config root save
  rw [isPlay, play?, show Options.mk _ _ = playing from rfl, read]
  generalize playOptions source limit config root save = given at *
  have store := optional?_path isRoot (by simpa using filled)
  have settings := optional?_path isConfig configs
  have rounds : given.optional? "rounds" rounds? = some limit := by
    rw [Given.optional?, isLimit]
    cases limit with
    | none => rfl
    | some rounds => simp [rounds?_repr (words rounds rfl)]
  have isSource : source? given = some source := by
    simp [source?, Given.required?, isPath, path?_filled path, terms]
  simp [store, settings, rounds, isSource, isSave]

/-- Every session can be taken up. -/
theorem ofArguments?_resumeLine (filled : root ≠ "") (configs : ∀ path ∈ config, path ≠ "") :
    Request.ofArguments? (resumeLine root config) = some (.resume root config) := by
  let given : Given := [("store", some root)] ++
    (config.map fun path => ("config", some path)).toList
  have allowed : ∀ option ∈ given, resuming.Allows option := by
    intro option inside
    simp only [given, List.mem_append, List.mem_singleton, Option.mem_toList,
      Option.map_eq_some_iff] at inside
    rcases inside with rfl | ⟨path, -, rfl⟩
    · exact resuming_plain.valued (by decide) _
    · exact resuming_plain.valued (by decide) _
  have once : (given.map Prod.fst).Nodup := by cases config <;> simp [given]
  have read : resuming.read? (given.map written) = some given := read?_written allowed once
  have isResume : Request.ofArguments? (resumeLine root config) = resume? (given.map written) := by
    have other : ¬ asksVersion "resume" = true := by decide +kernel
    rw [resumeLine, Request.ofArguments?, if_neg other]
  have isRoot : given.value? "store" = some root := by simp [given, Given.value?]
  have isConfig : given.value? "config" = config := by
    cases config <;> simp [given, Given.value?, List.lookup_cons]
  have settings := optional?_path isConfig configs
  rw [isResume, resume?, show Options.mk _ _ = resuming from rfl, read]
  simp [Given.required?, isRoot, path?_filled filled, settings]

/-- A session is only played into a directory with a name. -/
theorem filled_of_play {arguments : List String}
    (asks : Request.ofArguments? arguments = some (.play source limit config (some root) save)) :
    root.isEmpty = false := by
  unfold Request.ofArguments? at asks
  split at asks
  · cases asks
  · split_ifs at asks
    · cases asks
    · split at asks
      · simp only [parse?, Option.bind_eq_bind, Option.bind_eq_some_iff] at asks
        obtain ⟨given, -, source, -, whole⟩ := asks
        cases whole
      · simp only [play?, Option.bind_eq_bind, Option.bind_eq_some_iff] at asks
        obtain ⟨given, -, store, isStore, -, -, source, -, limit, -, config, -, whole⟩ := asks
        cases whole
        unfold Given.optional? at isStore
        split at isStore
        · obtain ⟨path, isPath, same⟩ := Option.map_eq_some_iff.mp isStore
          obtain rfl := Option.some.inj same
          exact filled_of_path? isPath
        · cases isStore
      · simp only [svg?, Option.bind_eq_bind, Option.bind_eq_some_iff] at asks
        obtain ⟨given, -, size, -, source, -, out, -, config, -, whole⟩ := asks
        cases whole
      · simp only [resume?, Option.bind_eq_bind, Option.bind_eq_some_iff] at asks
        obtain ⟨given, -, root, -, config, -, whole⟩ := asks
        cases whole
      · cases asks

end Crochet.CommandLine
