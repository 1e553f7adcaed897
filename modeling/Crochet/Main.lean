/-
# Crochet.Main -- the program

The commands on the machine's own files, input, outputs and clock.
-/
import Crochet.CommandLine.Run
import Std.Time.DateTime

set_option autoImplicit false

namespace Crochet.CommandLine

/-- A code of the system, which some calls report negated. -/
def isCode (expected code : UInt32) : Bool := code == expected || code == 0 - expected

def faultOf : IO.Error → FileFault
  | .noFileOrDirectory .. => .notFound
  | .alreadyExists .. => .alreadyExists
  | .inappropriateType _ code _ => if isCode 20 code then .notDirectory else .isDirectory
  | .invalidArgument _ code details =>
    if isCode 36 code then .nameTooLong else .other details
  | error => .other (toString error)

def attempt {α : Type} (action : IO α) : IO (Except FileFault α) := do
  try return .ok (← action)
  catch error => return .error (faultOf error)

instance : Files IO where
  read path := attempt (IO.FS.readBinFile path)
  write path bytes := attempt (IO.FS.writeBinFile path bytes)
  createDir path := attempt (IO.FS.createDir path)

/-- The instant that the machine's clock shows. -/
def instant (stamp : Std.Time.Timestamp) : Timestamp :=
  let civil := Std.Time.PlainDateTime.ofWallTime (Std.Time.WallTime.ofTimestamp stamp .zero)
  let date : Date := {
    year := civil.date.year.toInt
    month := civil.date.month.toNat
    day := civil.date.day.toNat }
  (Timestamp.ofLocal? date civil.time.hour.toNat civil.time.minute.toNat civil.time.second.toNat
    civil.time.nanosecond.toNat 0).getD Timestamp.millennium

instance : Host IO where
  readInput := do (← IO.getStdin).readBinToEnd
  print text := do
    let output ← IO.getStdout
    output.putStr text
    output.flush
  report text := do (← IO.getStderr).putStr text
  now := do return instant (← Std.Time.Timestamp.now)

end Crochet.CommandLine

def main (arguments : List String) : IO UInt32 := Crochet.CommandLine.run arguments
