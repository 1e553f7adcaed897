/-
# Crochet.CommandLine.Host -- what a command runs on

A host has files, an input, two outputs and a clock.  `Desk` is a host that is
a value: a tree of files, the bytes of the input, what was printed so far, and
a clock that stands still.
-/
import Crochet.FileTree
import Crochet.Timestamp

set_option autoImplicit false

namespace Crochet.CommandLine

/-- What a command runs on. -/
class Host (m : Type → Type) extends Files m where
  readInput : m ByteArray
  print (text : String) : m Unit
  /-- Prints to the output for messages. -/
  report (text : String) : m Unit
  now : m Timestamp

/-- A host that is a value. -/
structure Desk where
  files : FileTree
  input : ByteArray
  output : String
  messages : String
  clock : Timestamp

namespace Desk

instance : Files (StateM Desk) where
  read path := do return (← get).files.read path
  write path bytes := modifyGet fun desk =>
    let (result, files) := desk.files.changed (desk.files.write path bytes)
    (result, { desk with files })
  createDir path := modifyGet fun desk =>
    let (result, files) := desk.files.changed (desk.files.createDir path)
    (result, { desk with files })

instance : Host (StateM Desk) where
  readInput := do return (← get).input
  print text := modify fun desk => { desk with output := desk.output ++ text }
  report text := modify fun desk => { desk with messages := desk.messages ++ text }
  now := do return (← get).clock

end Desk

end Crochet.CommandLine
