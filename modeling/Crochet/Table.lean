/-
# Crochet.Table -- values under keys

A table lists every key once with its value, in the order in which the keys
were first used.  `insert` replaces a value where it stands or adds it at the
end.
-/

set_option autoImplicit false

namespace Crochet

/-- Values under keys. -/
abbrev Table (κ ν : Type) := List (κ × ν)

namespace Table

variable {κ ν : Type} [DecidableEq κ]

def find? (key : κ) : Table κ ν → Option ν
  | [] => none
  | (k, v) :: rest => if k = key then some v else find? key rest

def insert (key : κ) (value : ν) : Table κ ν → Table κ ν
  | [] => [(key, value)]
  | (k, v) :: rest => if k = key then (key, value) :: rest else (k, v) :: insert key value rest

theorem find?_insert (key other : κ) (value : ν) (table : Table κ ν) :
    (insert key value table).find? other =
      if key = other then some value else table.find? other := by
  induction table with
  | nil => simp [insert, find?]
  | cons entry rest ih =>
      obtain ⟨k, v⟩ := entry
      by_cases same : k = key
      · subst same
        by_cases hit : k = other <;> simp [insert, find?, hit]
      · by_cases hit : k = other
        · subst hit
          simp [insert, find?, same, Ne.symm same]
        · simp [insert, find?, same, hit, ih]

end Table

end Crochet
