/-
# Crochet.Error -- what can go wrong, and how it is said

Reading patterns and laying out rings never fail.  Settings can be refused,
stores can fail, documents can be unreadable; everything else is carried along
as the message it came with.
-/

set_option autoImplicit false

namespace Crochet

/-- A failure at one of the edges. -/
inductive Error where
  /-- A setting or a document was refused for what it says. -/
  | validation (reason : String)
  /-- A store could not read or write a key. -/
  | persistence (reason : String)
  /-- A text could not be read as the document it should be. -/
  | serialization (reason : String)
  /-- A failure from somewhere below. -/
  | other (message : String)
deriving DecidableEq, Repr

def Error.message : Error → String
  | validation reason => "validation error: " ++ reason
  | persistence reason => "persistence error: " ++ reason
  | serialization reason => "serialization error: " ++ reason
  | other message => message

end Crochet
