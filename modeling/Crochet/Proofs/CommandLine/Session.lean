/-
# Crochet.Proofs.CommandLine.Session -- a session outlives its process

Playing into a directory that takes what is written to it builds rings one by
one.  After each of them the lines printed are those of the rings built, and the
directory keeps the player as it then stands.  So when the process ends, what is
left is the progress of the last player, and another process takes it up there,
on whatever desk it finds that file.
-/
import Crochet.Proofs.CommandLine.Desk
import Crochet.Proofs.CommandLine.Request
import Crochet.Proofs.Player.Stored

set_option autoImplicit false

namespace Crochet.CommandLine

open Directory

/-! ## What a command reads -/

namespace Desk

/-- The text that a path stands for; a lone `-` is the input. -/
def textOf (desk : Desk) (path : String) : Except FileFault String :=
  if FilePath.isName path "-" then textOfBytes desk.input
  else desk.files.read path >>= textOfBytes

/-- The settings are those of a file, where they are valid, or the usual ones. -/
def Configures (desk : Desk) (settings : Settings) : Option String → Prop
  | none => settings = .usual
  | some path => ∃ text, (desk.files.read path >>= textOfBytes) = .ok text ∧
      Settings.ofString text = .ok settings

end Desk

variable {desk : Desk}

theorem orFail_run {α : Type} (doing : String) (value : α) (desk : Desk) :
    (orFail doing (.ok value) : Step (StateM Desk) α).run desk = (.ok value, desk) := rfl

theorem readText_run {doing path text : String}
    (reads : (desk.files.read path >>= textOfBytes) = .ok text) :
    (readText doing path : Step (StateM Desk) String).run desk = (.ok text, desk) := by
  obtain ⟨bytes, found, isText⟩ := Except.bind_eq_ok.mp reads
  have read : (Files.read path : Step (StateM Desk) _).run desk =
      (.ok (desk.files.read path), desk) := rfl
  rw [readText, run_bind read, found, run_bind (orFail_run doing bytes desk), isText]
  exact orFail_run doing text desk

theorem readSource_run {source : Source} {text : String}
    (reads : desk.textOf source.path = .ok text) :
    (readSource source : Step (StateM Desk) String).run desk = (.ok text, desk) := by
  unfold Desk.textOf at reads
  unfold readSource
  split at reads
  · rename_i isInput
    have read : (Host.readInput : Step (StateM Desk) ByteArray).run desk = (.ok desk.input, desk) :=
      rfl
    rw [if_pos isInput, run_bind read, reads]
    rfl
  · rename_i isFile
    rw [if_neg isFile]
    exact readText_run reads

theorem readSettings_run {config : Option String} {settings : Settings}
    (configured : desk.Configures settings config) :
    (readSettings config : Step (StateM Desk) Settings).run desk = (.ok settings, desk) := by
  cases config with
  | none =>
      obtain rfl : settings = .usual := configured
      rfl
  | some path =>
      obtain ⟨text, reads, valid⟩ := configured
      rw [readSettings, run_bind (readText_run reads), valid]
      rfl

/-! ## Playing -/

/-- The lines of some rings, the first one's number being one. -/
def ringLines (rings : List (Ring Float)) : String :=
  String.join (rings.mapIdx fun i ring => ringLine (i + 1) ring ++ "\n")

/-- The line of a ring: its number, then its stitches, its radius, its band and its links, with the
numbers in columns. -/
theorem ringLine_eq (number : Nat) (ring : Ring Float) :
    let blanks (n : Nat) := String.ofList (List.replicate n ' ')
    let column (n : Nat) := blanks (5 - n.repr.length) ++ n.repr
    ringLine number ring =
      "R" ++ number.repr ++ blanks (3 - number.repr.length) ++ " " ++ column ring.anchors.size ++
        " anchors  radius " ++ Decimal.fixed 3 (radius ring) ++ "  ring " ++
        column ring.band.size ++ "  links " ++ column ring.links.size := by
  simp only [ringLine, padRight, padLeft, Ring.width, String.append_assoc]

theorem ringLines_concat (rings : List (Ring Float)) (ring : Ring Float) :
    ringLines (rings ++ [ring]) =
      ringLines rings ++ (ringLine (rings.length + 1) ring ++ "\n") := by
  simp [ringLines, List.mapIdx_concat, String.join]

/-- A player, the lines of its rings, and the directory that keeps it. -/
structure InPlay (root : String) (keys : List String) (before : String) (p : Player)
    (desk : Desk) : Prop where
  sound : p.Sound
  printed : desk.output = before ++ ringLines p.rings.toList
  kept : Keeping root keys (some p) desk.files

variable {root before : String} {keys : List String} {p : Player}

/-- A printed line is the only thing that is new. -/
theorem printLine_run (line : String) (desk : Desk) :
    (printLine line : Step (StateM Desk) Unit).run desk =
      (.ok (), { desk with output := desk.output ++ (line ++ "\n") }) := rfl

theorem reportLine_run (line : String) (desk : Desk) :
    (reportLine line : Step (StateM Desk) Unit).run desk =
      (.ok (), { desk with messages := desk.messages ++ (line ++ "\n") }) := rfl

/-- **Building rings prints their lines and keeps the player**, ring by ring up to the limit or
the end of the pattern. -/
theorem buildRings_run (auto : Store.autosaveKey ∈ keys) (limit : Nat)
    (inPlay : InPlay root keys before p desk) :
    ∃ after, (buildRings (storeIn (some root)) limit p : Step (StateM Desk) Player).run desk =
        (.ok (p.climb limit), after) ∧
      InPlay root keys before (p.climb limit) after := by
  induction limit generalizing p desk with
  | zero => exact ⟨desk, rfl, inPlay⟩
  | succ limit ih =>
      rw [buildRings, run_bind (operate_run root p .advance desk)]
      obtain ⟨same, kept⟩ := run_keeping auto inPlay.kept p .advance nofun
      rw [Player.run_answer (deskStore root) deskClock p .advance nofun, Player.run_player]
      generalize (p.run (deskStore root) deskClock .advance desk).2 = next at same kept ⊢
      have printed : next.output = before ++ ringLines p.rings.toList := by
        rw [same]
        exact inPlay.printed
      simp only [Player.answered, Player.played, Player.stops, Player.climbs, Player.advance?_eq,
        Player.climb] at kept ⊢
      cases built : p.build? with
      | none =>
          rw [built] at kept
          exact ⟨next, rfl, inPlay.sound, printed, kept⟩
      | some above =>
          obtain ⟨ring, q, events⟩ := above
          rw [built] at kept
          have sound := Player.build?_sound inPlay.sound built
          obtain ⟨-, rfl⟩ := Player.build?_eq_some built
          simp only [Option.map_some, Option.getD_some]
          rw [run_bind (printLine_run _ next)]
          refine ih ⟨sound, ?_, kept⟩
          simp only [printed, Array.toList_push, ringLines_concat, Array.length_toList]
          rw [String.append_assoc, Player.cursor, Array.size_push]

/-- A loaded player is in play, whatever stood in the directory. -/
theorem load_inPlay {next : FileTree} (auto : Store.autosaveKey ∈ keys)
    (opening : Opening desk.files next root keys) (settings : Settings) (text : String)
    (terms : Terminology) :
    let ran := (Player.new settings).run (deskStore root) deskClock (.load text terms) desk
    ran.1.player = ((Player.new settings).load text terms).player ∧
      InPlay root keys desk.output ran.1.player ran.2 := by
  intro ran
  have player : ran.1.player = ((Player.new settings).load text terms).player :=
    Player.run_player (deskStore root) deskClock _ (.load text terms) desk
  obtain ⟨same, kept⟩ := run_keeping auto (.unsaved opening) (Player.new settings)
    (.load text terms) nofun
  have sound := (Player.played_sound (Player.new_sound settings) none (.load text terms)).player
  have printed : ran.2.output = desk.output := by
    rw [show ran.2 = _ from same]
  refine ⟨player, ?_⟩
  rw [player]
  refine ⟨sound, ?_, kept⟩
  rw [printed]
  exact (String.append_empty).symm

/-- Saving is kept beside the session in progress, and prints nothing. -/
theorem saveNow_run (manual : Store.manualKey ∈ keys) (inPlay : InPlay root keys before p desk) :
    ∃ after now, (saveNow (storeIn (some root)) p : Step (StateM Desk) Unit).run desk =
        (.ok (), after) ∧
      InPlay root keys before p after ∧
      Stands after.files root Store.manualKey (Snapshot.capture p.pattern now).text := by
  obtain ⟨sound, printed, kept⟩ := inPlay
  cases kept with
  | saved ready stands =>
      let text := (Snapshot.capture p.pattern desk.clock).text
      have written := write_opening ready.opening manual text
      have apart : Store.manualKey ≠ Store.autosaveKey := by decide
      have kept := Keeping.saved (ready.put manual text) (stands.put apart text)
      obtain ⟨answer, after⟩ := Player.run_save_state p desk
      let told := "saved " ++ p.pattern.length.repr ++ " rounds"
      have ran : (saveNow (storeIn (some root)) p : Step (StateM Desk) Unit).run desk =
          (.ok (), { desk with
            files := stored desk.files root Store.manualKey text
            messages := desk.messages ++ (told ++ "\n") }) := by
        rw [saveNow, run_bind (operate_run root p .save desk), answer, after,
          show deskClock desk = (desk.clock, desk) from rfl, written]
        exact reportLine_run _ _
      exact ⟨_, desk.clock, ran, ⟨sound, printed, kept⟩, stands_stored desk.files root _ text⟩

/-- The keys that playing writes to. -/
def keysFor (save : Bool) : List String :=
  Store.autosaveKey :: if save then [Store.manualKey] else []

variable {source : Source} {limit : Option Nat} {config : Option String} {save : Bool}
  {text : String} {settings : Settings}

/-- **Playing builds rings up to the limit** and leaves the player at the last of them, its lines
printed and the session in progress kept; and a save of the whole pattern beside it, if that was
wanted. -/
theorem runPlay_run (limit : Option Nat) (filled : root.isEmpty = false)
    (reads : desk.textOf source.path = .ok text)
    (configured : desk.Configures settings config)
    (accepts : ∀ key ∈ keysFor save, Accepts desk.files root key) :
    let pattern := Pattern.parse (source.terms.normalize text)
    ∃ (after : Desk) (player : Player),
      (runPlay source limit config (some root) save : Step (StateM Desk) Unit).run desk =
        (.ok (), after) ∧
      InPlay root (keysFor save) desk.output player after ∧
      player.settings = settings ∧ player.pattern = pattern ∧
      player.cursor = min (limit.getD pattern.length) pattern.length ∧
      (save = true →
        ∃ now, Stands after.files root Store.manualKey (Snapshot.capture pattern now).text) := by
  intro pattern
  let loaded := ((Player.new settings).load text source.terms).player
  let most := min (limit.getD pattern.length) pattern.length
  have auto : Store.autosaveKey ∈ keysFor save := List.mem_cons_self
  have opening := opening_of_accepts filled (List.cons_ne_nil _ _) accepts
  obtain ⟨isLoaded, inPlay⟩ := load_inPlay auto opening settings text source.terms
  rw [isLoaded] at inPlay
  obtain ⟨between, built, inPlay⟩ := buildRings_run auto most inPlay
  obtain ⟨-, isSettings, isPattern, cursor⟩ :=
    Player.climb_spec most loaded (Player.withPattern_built _ _)
  have isPattern : (loaded.climb most).pattern = pattern := isPattern
  have reached : (loaded.climb most).cursor = most := by
    rw [cursor, show loaded.cursor = 0 from rfl, Nat.zero_add]
    exact Nat.min_eq_left (Nat.min_le_right _ _)
  rw [runPlay, run_bind (readSource_run reads), run_bind (readSettings_run configured),
    run_bind (operate_run root (.new settings) (.load text source.terms) desk), isLoaded]
  simp only
  rw [show ((Player.new settings).load text source.terms).player.pattern = pattern from rfl,
    run_bind built]
  generalize loaded.climb most = player at *
  cases save with
  | false =>
      exact ⟨_, player, reportLine_run _ between, ⟨inPlay.sound, inPlay.printed, inPlay.kept⟩,
        isSettings, isPattern, reached, nofun⟩
  | true =>
      have manual : Store.manualKey ∈ keysFor true := List.mem_cons_of_mem _ List.mem_cons_self
      obtain ⟨after, now, saved, inPlay, stands⟩ := saveNow_run manual inPlay
      rw [isPattern] at stands
      rw [if_pos rfl, run_bind saved]
      exact ⟨_, player, reportLine_run _ after, ⟨inPlay.sound, inPlay.printed, inPlay.kept⟩,
        isSettings, isPattern, reached, fun _ => ⟨now, stands⟩⟩

/-! ## Resuming -/

/-- The line of the round that comes next, if one is left. -/
def nextLine : Option Round → String
  | some round => "next: " ++ round.text ++ "\n"
  | none => ""

/-- The lines that tell where a session stood. -/
def resumedLines (pattern : Pattern) (built : Nat) : String :=
  "resumed at round " ++ built.repr ++ "/" ++ pattern.length.repr ++ "\n" ++
    nextLine pattern.rounds[built]?

/-- There is a next line as long as a round is left. -/
theorem resumedLines_eq (pattern : Pattern) (built : Nat) :
    resumedLines pattern built =
      "resumed at round " ++ built.repr ++ "/" ++ pattern.length.repr ++ "\n" ++
        if left : built < pattern.rounds.length then "next: " ++ pattern.rounds[built].text ++ "\n"
        else "" := by
  unfold resumedLines
  congr 1
  by_cases left : built < pattern.rounds.length
  · rw [dif_pos left, List.getElem?_eq_getElem left]
    rfl
  · rw [dif_neg left, List.getElem?_eq_none (Nat.not_lt.mp left)]
    rfl

/-- Recovering on a desk where the file of the session in progress says a player's progress brings
back that player's pattern and cursor, and leaves the desk as it was. -/
theorem recover_desk {now : Timestamp} (sound : p.Sound) (word : p.cursor < UInt64.size)
    (found : desk.files.read (path root Store.autosaveKey) = .ok (p.progress now).text.toUTF8)
    (settings : Settings) :
    let ran := (Player.new settings).run (deskStore root) deskClock .recover desk
    ran.1.answer = .found true ∧ ran.1.player.pattern = p.pattern ∧
      ran.1.player.cursor = p.cursor ∧ ran.2 = desk := by
  intro ran
  have finds : Player.Operation.found (deskStore root) .recover desk =
      some (p.progress now).settled := by
    have valid : isKey Store.autosaveKey = true := by decide
    have read := read_desk root Store.autosaveKey desk valid
    rw [found, readBytes, textOfBytes_toUTF8] at read
    rw [Player.found_recover, read]
    simp only [Store.decode, Snapshot.ofString?_text]
  let write : Player.Write := ⟨p, Store.autosaveKey, p.progress now, .ok ()⟩
  have honest : write.Honest :=
    ⟨sound, Snapshot.toPattern_capture sound.derived now, fun _ => rfl⟩
  obtain ⟨-, -, pattern, cursor⟩ := Player.recover_write honest rfl (Player.new settings)
  obtain ⟨answer, player, -⟩ :=
    Player.run_recover_some (deskStore root) deskClock finds (Player.new settings)
  obtain ⟨-, untouched⟩ :=
    Player.run_recover_writes (deskStore root) deskClock (Player.new settings) desk
  refine ⟨answer, ?_, ?_, untouched⟩
  · rw [player, Player.recover_settled]
    exact pattern
  · rw [player, Player.recover_settled]
    exact cursor word

/-- **A session is taken up where its file says**, under any settings; nothing but the output of
the desk changes. -/
theorem runResume_run {now : Timestamp} (sound : p.Sound) (word : p.cursor < UInt64.size)
    (configured : desk.Configures settings config)
    (found : desk.files.read (path root Store.autosaveKey) = .ok (p.progress now).text.toUTF8) :
    (runResume root config : Step (StateM Desk) Unit).run desk =
      (.ok (), { desk with output := desk.output ++ resumedLines p.pattern p.cursor }) := by
  obtain ⟨answer, pattern, cursor, unchanged⟩ := recover_desk sound word found settings
  have directory : (store root : Store (Step (StateM Desk))) = storeIn (some root) := rfl
  rw [runResume, run_bind (readSettings_run configured), directory,
    run_bind (operate_run root (Player.new settings) .recover desk), unchanged]
  simp only [answer, progress, pattern, cursor]
  have stood := printLine_run
    ("resumed at round " ++ (p.cursor.repr ++ "/" ++ p.pattern.length.repr)) desk
  rw [run_bind stood, Pattern.get?]
  unfold resumedLines
  cases p.pattern.rounds[p.cursor]? with
  | some round => simp only [printLine_run, nextLine, String.append_assoc]
  | none =>
      simp only [nextLine, String.append_assoc, String.append_empty]
      rfl

/-! ## Two processes -/

/-- A command that is asked for and does not fail ends well. -/
theorem run_of_asked {arguments : List String} {request : Request} {after : Desk}
    (asks : Request.ofArguments? arguments = some request)
    (done : (perform request : Step (StateM Desk) Unit).run desk = (.ok (), after)) :
    (run arguments : StateM Desk UInt32) desk = (0, after) := by
  unfold run
  rw [asks]
  simp only [bind, StateT.bind, done]
  rfl

/-- **A session outlives its process.**  Take a pattern text that can be read, under either
vocabulary, valid settings, any limit or none, and a directory in which the files that playing
writes can be written, whatever else stands there; let the rounds be fewer than a machine word
counts.  Playing ends well and prints one line for each ring up to the limit or the end of the
pattern, in order: its number and how many stitches it has, its radius, and how many yarns its
band and its links have.  From then on, on any desk that reads the same file of the session in
progress, and under any valid settings, resuming ends well and changes nothing but what is
printed: where the session stood, and the text of the round that comes next exactly if one is
left.  Where saving was asked for, the other file decodes to all rounds, without a cursor. -/
theorem resume_after_play {arguments : List String}
    (asks : Request.ofArguments? arguments = some (.play source limit config (some root) save))
    (reads : desk.textOf source.path = .ok text)
    (configured : desk.Configures settings config)
    (accepts : ∀ key ∈ keysFor save, Accepts desk.files root key)
    (word : (Pattern.parse (source.terms.normalize text)).length < UInt64.size) :
    let pattern := Pattern.parse (source.terms.normalize text)
    let built := min (limit.getD pattern.length) pattern.length
    let played := (run arguments : StateM Desk UInt32) desk
    let blanks (n : Nat) := String.ofList (List.replicate n ' ')
    let column (n : Nat) := blanks (5 - n.repr.length) ++ n.repr
    played.1 = 0 ∧
    (∃ rings : List (Ring Float), rings.length = built ∧
      (∀ i < built, settings.ringOf pattern.counts i = rings[i]?) ∧
      played.2.output = desk.output ++
        String.join (rings.mapIdx fun i ring =>
          "R" ++ (i + 1).repr ++ blanks (3 - (i + 1).repr.length) ++ " " ++
            column ring.anchors.size ++ " anchors  radius " ++ Decimal.fixed 3 (radius ring) ++
            "  ring " ++ column ring.band.size ++ "  links " ++ column ring.links.size ++ "\n")) ∧
    (∀ (again : List String) (config : Option String) (settings : Settings) (later : Desk),
      Request.ofArguments? again = some (.resume root config) →
      later.Configures settings config →
      later.files.read (FilePath.join root "crochet-autosave.json") =
        played.2.files.read (FilePath.join root "crochet-autosave.json") →
      (run again : StateM Desk UInt32) later = (0, { later with output := later.output ++
        ("resumed at round " ++ built.repr ++ "/" ++ pattern.length.repr ++ "\n" ++
          if left : built < pattern.rounds.length then
            "next: " ++ pattern.rounds[built].text ++ "\n" else "") })) ∧
    (save = true → ∃ bytes saved snapshot,
      played.2.files.read (FilePath.join root "crochet-pattern.json") = .ok bytes ∧
      textOfBytes bytes = .ok saved ∧ Snapshot.ofString? saved = some snapshot ∧
      snapshot.rounds = pattern.rounds.map (fun round => ⟨round.stitches, round.text⟩) ∧
      snapshot.cursor = none ∧ snapshot.toPattern = pattern) := by
  intro pattern built played blanks column
  obtain ⟨after, player, ran, ⟨sound, printed, kept⟩, isSettings, isPattern, reached, saves⟩ :=
    runPlay_run limit (filled_of_play asks) reads configured accepts
  have ends : played = (0, after) := run_of_asked asks ran
  have autosave : path root Store.autosaveKey = FilePath.join root "crochet-autosave.json" :=
    congrArg (FilePath.join root) (by decide)
  have manual : path root Store.manualKey = FilePath.join root "crochet-pattern.json" :=
    congrArg (FilePath.join root) (by decide)
  have reached : player.cursor = built := reached
  have small : player.cursor < UInt64.size := by
    rw [reached]
    exact Nat.lt_of_le_of_lt (Nat.min_le_right _ _) word
  rw [ends]
  cases kept with
  | saved ready stands =>
      simp only [ringLines, ringLine_eq] at printed
      refine ⟨rfl, ⟨player.rings.toList, reached, fun i inside => ?_, printed⟩, ?_, ?_⟩
      · rw [← reached] at inside
        have ring := sound.built.rings_eq i inside
        rw [isSettings, isPattern] at ring
        rw [Array.getElem?_toList]
        exact ring.symm
      · intro again config others later asksAgain valid same
        have found := ready.read List.mem_cons_self stands
        rw [autosave, ← same, ← autosave] at found
        rw [run_of_asked asksAgain (runResume_run sound small valid found), isPattern, reached,
          resumedLines_eq]
      · intro isSaved
        obtain ⟨now, stands⟩ := saves isSaved
        subst isSaved
        have found := ready.read (List.mem_cons_of_mem _ List.mem_cons_self) stands
        rw [manual] at found
        exact ⟨_, _, _, found, textOfBytes_toUTF8 _, Snapshot.ofString?_text _, rfl, rfl,
          Snapshot.toPattern_capture (Pattern.read_derived _) now⟩

/-- Three rounds of a bag. -/
def bagText : String := "6 sc in MR\n[sc, inc] x6\n\n 18 sc"

/-- A desk with the pattern of a bag, and a directory where an older session stands. -/
def bagDesk : Desk where
  files :=
    { nodes := [
        (["home"], .directory),
        (["home", "bag.txt"], .file bagText.toUTF8),
        (["home", "work"], .directory),
        (["home", "work", "crochet-autosave.json"],
          .file ((Player.new .usual).progress .millennium).text.toUTF8)]
      here := ["home"] }
  input := ByteArray.empty
  output := ""
  messages := ""
  clock := .millennium

theorem resume_after_play_bag :
    let source : Source := ⟨"bag.txt", .us⟩
    let arguments := playLine source (some 1) none "work" true
    let played := (run arguments : StateM Desk UInt32) bagDesk
    let resumed := (run (resumeLine "work" none) : StateM Desk UInt32)
      { played.2 with output := "" }
    Request.ofArguments? arguments = some (.play source (some 1) none (some "work") true) ∧
      bagDesk.textOf source.path = .ok bagText ∧ bagDesk.Configures .usual none ∧
      (∀ key ∈ keysFor true, Accepts bagDesk.files "work" key) ∧
      (Pattern.parse (source.terms.normalize bagText)).length = 3 ∧
      played.1 = 0 ∧
      (∃ ring, Settings.usual.ringOf [6, 18, 18] 0 = some ring ∧
        played.2.output = "R1       6 anchors  radius " ++ Decimal.fixed 3 (radius ring) ++
          "  ring     6  links     0\n") ∧
      resumed.1 = 0 ∧ resumed.2.output = "resumed at round 1/3\nnext: [sc, inc] x6\n" := by
  intro source arguments played resumed
  have asks : Request.ofArguments? arguments =
      some (.play source (some 1) none (some "work") true) :=
    ofArguments?_playLine (by decide) (by decide) (by decide) nofun
  have asksAgain : Request.ofArguments? (resumeLine "work" none) = some (.resume "work" none) :=
    ofArguments?_resumeLine (by decide) nofun
  have reads : bagDesk.textOf source.path = .ok bagText := by decide +kernel
  have accepts : ∀ key ∈ keysFor true, Accepts bagDesk.files "work" key := by
    unfold Accepts
    decide +kernel
  have three : (Pattern.parse (source.terms.normalize bagText)).length = 3 := by decide +kernel
  obtain ⟨ends, ⟨rings, one, isRing, printed⟩, resumes, -⟩ :=
    resume_after_play asks reads rfl accepts (by rw [three]; decide)
  have counts : (Pattern.parse (source.terms.normalize bagText)).counts = [6, 18, 18] := by
    decide +kernel
  rw [three] at one isRing
  obtain ⟨ring, rfl⟩ := List.length_eq_one_iff.mp one
  have lowest := isRing 0 (by decide)
  rw [counts] at lowest
  obtain ⟨count, six, made⟩ := Settings.ringOf_zero_eq_some.mp lowest
  obtain rfl : 6 = count := Option.some.inj six
  have anchors : ring.anchors.size = 6 := by
    rw [← made]
    exact Ring.build_width _ _ _ _
  have band : ring.band.size = 6 := by
    rw [← made, (Ring.build_closed _ _ _ _).size_eq, Ring.build_width]
    rfl
  have links : ring.links.size = 0 := by rw [← made, Ring.build_links, Array.size_empty]
  have again := resumes _ none .usual { played.2 with output := "" } asksAgain rfl rfl
  have isResumed : resumed = _ := again
  refine ⟨asks, reads, rfl, accepts, three, ends, ⟨ring, lowest, ?_⟩, ?_, ?_⟩
  · have numbers : Nat.repr 1 = "1" ∧ Nat.repr 6 = "6" ∧ Nat.repr 0 = "0" := by decide
    have short : "1".length = 1 ∧ "6".length = 1 ∧ "0".length = 1 := by decide
    rw [printed]
    simp [bagDesk, String.join, anchors, band, links, numbers, short, ← String.toList_inj,
      List.replicate_succ]
  · rw [isResumed]
  · rw [isResumed]
    decide +kernel

end Crochet.CommandLine
