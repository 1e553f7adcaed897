/-
# Crochet.Proofs.Text.Cuts -- where a run of a class of characters ends

A run of characters of one class, with a rest behind it that does not go on
with the class, is cut off exactly by `takeWhile` and `dropWhile`; and every
text has such a cut.
-/
import Mathlib.Data.List.TakeWhile
import Mathlib.Tactic.Common

set_option autoImplicit false

namespace Crochet.Text

variable {test : Char → Bool} {run rest : List Char}

/-- The text does not start with a character of the class. -/
def Stops (test : Char → Bool) (rest : List Char) : Prop := ∀ c ∈ rest.head?, test c = false

theorem stops_cons {c : Char} {cs : List Char} : Stops test (c :: cs) ↔ test c = false := by
  simp [Stops]

theorem stops_append {front : List Char} (starts : Stops test front) (goesOn : Stops test rest) :
    Stops test (front ++ rest) := by
  cases front with
  | nil => exact goesOn
  | cons c cs => exact stops_cons.mpr (stops_cons.mp starts)

theorem stops_of_append {front : List Char} (stop : Stops test (front ++ rest)) :
    Stops test front := by
  cases front with
  | nil =>
      intro c first
      cases first
  | cons c cs => exact stops_cons.mpr (stops_cons.mp stop)

theorem takeWhile_run (all : ∀ c ∈ run, test c = true) (stop : Stops test rest) :
    (run ++ rest).takeWhile test = run := by
  rw [List.takeWhile_append_of_pos all]
  cases rest with
  | nil => simp
  | cons c rest => simp [stops_cons.mp stop]

theorem dropWhile_run (all : ∀ c ∈ run, test c = true) (stop : Stops test rest) :
    (run ++ rest).dropWhile test = rest := by
  rw [List.dropWhile_append_of_pos all]
  cases rest with
  | nil => rfl
  | cons c rest => simp [stops_cons.mp stop]

/-- Every text is a run of a class and a rest that does not go on with it. -/
theorem exists_cut (test : Char → Bool) (cs : List Char) :
    ∃ run rest, cs = run ++ rest ∧ (∀ c ∈ run, test c = true) ∧ Stops test rest := by
  refine ⟨cs.takeWhile test, cs.dropWhile test, List.takeWhile_append_dropWhile.symm,
    fun c inside => List.mem_takeWhile_imp inside, fun c first => ?_⟩
  have front := List.head?_dropWhile_not test cs
  rw [Option.mem_def.mp first] at front
  exact front

end Crochet.Text
