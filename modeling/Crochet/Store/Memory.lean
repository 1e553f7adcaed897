/-
# Crochet.Store.Memory -- a store that keeps its texts at hand

It accepts every key and never fails.
-/
import Crochet.Store
import Crochet.Table

set_option autoImplicit false

namespace Crochet

/-- Texts under keys. -/
abbrev Memory := Table String String

namespace Memory

def empty : Memory := []

def store : Store (StateM Memory) where
  write key text := do
    modify (Table.insert key text)
    return .ok ()
  read key := do
    return .ok ((← get).find? key)

end Memory

end Crochet
