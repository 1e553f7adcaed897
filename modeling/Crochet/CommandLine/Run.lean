/-
# Crochet.CommandLine.Run -- the commands

A command runs on a host.  It ends well, or with a failure that says what was
being done and why it did not work; then the exit code is one.  A command line
that asks for nothing known ends with exit code two.
-/
import Crochet.CommandLine.Host
import Crochet.CommandLine.Request
import Crochet.CommandLine.Table
import Crochet.Drawing.Svg
import Crochet.Pattern.Document
import Crochet.Player.Run
import Crochet.Store.Directory

set_option autoImplicit false

namespace Crochet.CommandLine

/-- Why a command ends early. -/
structure Failure where
  message : String
  cause : Option String

namespace Failure

/-- A text with four blanks in front of every line. -/
def inset (text : String) : String :=
  String.ofList (' ' :: ' ' :: ' ' :: ' ' :: text.toList.flatMap fun c =>
    if c = '\n' then ['\n', ' ', ' ', ' ', ' '] else [c])

def text (failure : Failure) : String :=
  "Error: " ++ failure.message ++
    (match failure.cause with
      | some cause => "\n\nCaused by:\n" ++ inset cause
      | none => "") ++ "\n"

end Failure

variable {m : Type → Type} [Monad m] [Host m]

/-- A command in the making: it may fail. -/
abbrev Step (m : Type → Type) := ExceptT Failure m

instance : Files (Step m) where
  read path := ExceptT.lift (Files.read path)
  write path bytes := ExceptT.lift (Files.write path bytes)
  createDir path := ExceptT.lift (Files.createDir path)

instance : Host (Step m) where
  readInput := ExceptT.lift Host.readInput
  print text := ExceptT.lift (Host.print text)
  report text := ExceptT.lift (Host.report text)
  now := ExceptT.lift Host.now

/-- What a file operation gave, or a failure while doing something. -/
def orFail {α : Type} (doing : String) (result : Except FileFault α) : Step m α :=
  match result with
  | .ok value => return value
  | .error fault => throw { message := doing, cause := some fault.message }

def quoting (words path : String) : String := words ++ " '" ++ path ++ "'"

def readText (doing path : String) : Step m String := do
  let bytes ← orFail doing (← Files.read path)
  orFail doing (textOfBytes bytes)

/-- The pattern text of a source; a lone `-` stands for the input. -/
def readSource (source : Source) : Step m String :=
  if FilePath.isName source.path "-" then do
    orFail "read pattern from stdin" (textOfBytes (← Host.readInput))
  else readText (quoting "open pattern" source.path) source.path

/-- The settings of a file, or the usual ones. -/
def readSettings : Option String → Step m Settings
  | none => return .usual
  | some path => do
    match Settings.ofString (← readText (quoting "open config" path) path) with
    | .ok settings => return settings
    | .error error =>
      throw { message := quoting "parse config" path, cause := some error.message }

def printLine (line : String) : Step m Unit := Host.print (line ++ "\n")

def reportLine (line : String) : Step m Unit := Host.report (line ++ "\n")

/-- How many of a pattern's rounds are built. -/
def progress (p : Player) : String := p.cursor.repr ++ "/" ++ p.pattern.length.repr

def storeIn : Option String → Store (Step m)
  | some root => Directory.store root
  | none => Store.forgetful

def operate (store : Store (Step m)) (p : Player) (operation : Player.Operation) :
    Step m Player.Outcome :=
  p.run store Host.now operation

/-- Lists the rounds of a pattern. -/
def runParse (source : Source) (document hints : Bool) : Step m Unit := do
  let pattern := Pattern.parse (source.terms.normalize (← readSource source))
  if document then printLine pattern.toDocument
  else
    for round in pattern.rounds do
      for line in roundLines hints round do printLine line
    printLine (summaryLine pattern.summary)

def buildRings (store : Store (Step m)) : Nat → Player → Step m Player
  | 0, p => return p
  | limit + 1, p => do
    let outcome ← operate store p .advance
    match outcome.answer with
    | .built (some ring) => do
      printLine (ringLine outcome.player.cursor ring)
      buildRings store limit outcome.player
    | _ => return outcome.player

def saveNow (store : Store (Step m)) (p : Player) : Step m Unit := do
  let outcome ← operate store p .save
  match outcome.answer with
  | .saved (.error fault) =>
    throw { message := "save pattern", cause := some fault.toError.message }
  | _ => reportLine ("saved " ++ p.pattern.length.repr ++ " rounds")

def runPlay (source : Source) (rounds : Option Nat) (settings root : Option String)
    (save : Bool) : Step m Unit := do
  let text ← readSource source
  let settings ← readSettings settings
  let store : Store (Step m) := storeIn root
  let loaded ← operate store (.new settings) (.load text source.terms)
  let all := loaded.player.pattern.length
  let player ← buildRings store (min (rounds.getD all) all) loaded.player
  if save then saveNow store player
  reportLine ("built " ++ progress player ++ " rounds")

/-- Creates the directory that a file goes to. -/
def createParent (path : String) : Step m Unit :=
  match FilePath.parent? path with
  | some parent =>
    if parent.isEmpty then return ()
    else do orFail (quoting "create output dir" parent) (← Files.createDirs parent)
  | none => return ()

/-- Draws all rings of a pattern. -/
def runSvg (source : Source) (out : String) (side : Bool) (size : Float)
    (settings : Option String) : Step m Unit := do
  let text ← readSource source
  let settings ← readSettings settings
  let store : Store (Step m) := Store.forgetful
  let loaded ← operate store (.new settings) (.load text source.terms)
  let played ← operate store loaded.player .advanceAll
  let style := { Style.usual with view := if side then View.side else View.topDown, size }
  let drawing := Svg.ofRings style played.player.rings.toList
  createParent out
  orFail (quoting "write svg" out) (← Files.write out drawing.toUTF8)
  reportLine ("wrote " ++ out)

/-- Says where the last session stood. -/
def runResume (root : String) (settings : Option String) : Step m Unit := do
  let settings ← readSettings settings
  let outcome ← operate (Directory.store root) (.new settings) .recover
  match outcome.answer with
  | .found true => do
    let player := outcome.player
    printLine ("resumed at round " ++ progress player)
    match player.pattern.get? player.cursor with
    | some round => printLine ("next: " ++ round.text)
    | none => return ()
  | _ => throw { message := quoting "no auto-save found in" root, cause := none }

def versionLine : String := "stitchform 0.1.0"

def perform : Request → Step m Unit
  | .version => printLine versionLine
  | .parse source document hints => runParse source document hints
  | .play source rounds settings store save => runPlay source rounds settings store save
  | .svg source out side size settings => runSvg source out side size settings
  | .resume store settings => runResume store settings

def usage : String :=
  "usage: parse --in FILE [--uk] [--json] [--hints]\n" ++
  "       play --in FILE [--uk] [--rounds N] [--config FILE] [--store DIR [--save]]\n" ++
  "       svg --in FILE --out FILE [--uk] [--side] [--size PX] [--config FILE]\n" ++
  "       resume --store DIR [--config FILE]\n"

def run (arguments : List String) : m UInt32 := do
  match Request.ofArguments? arguments with
  | none => do
    Host.report usage
    return 2
  | some request => do
    match ← (perform request).run with
    | .ok () => return 0
    | .error failure => do
      Host.report failure.text
      return 1

end Crochet.CommandLine
