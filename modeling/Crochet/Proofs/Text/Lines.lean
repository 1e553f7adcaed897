/-
# Crochet.Proofs.Text.Lines -- texts that are written line by line

A text of lines is cut into these lines again, and a last piece behind the last
line feed that holds nothing.  A word that starts with a mark of its own stands
in such a text as often as lines start with it, when the mark stands nowhere
else.
-/
import Crochet.Proofs.Text.Pieces
import Mathlib.Data.List.Infix

set_option autoImplicit false

namespace Crochet.Text

/-- Lines, each ended by a line feed. -/
def ofLines (lines : List (List Char)) : List Char := lines.flatMap fun line => line ++ ['\n']

theorem ofLines_cons (line : List Char) (lines : List (List Char)) :
    ofLines (line :: lines) = line ++ '\n' :: ofLines lines := by simp [ofLines]

theorem pieces_ofLines {lines : List (List Char)} (unbroken : ∀ line ∈ lines, '\n' ∉ line) :
    pieces '\n' (ofLines lines) = lines ++ [[]] := by
  induction lines with
  | nil => rfl
  | cons line lines ih =>
      obtain ⟨first, rest⟩ := List.forall_mem_cons.mp unbroken
      rw [ofLines_cons, pieces_append_sep, pieces_word first, ih rest]
      rfl

/-! ## How often a word stands in a text -/

/-- The number of places of a text where a word stands. -/
def timesIn (word cs : List Char) : Nat := cs.tails.countP word.isPrefixOf

theorem timesIn_cons (word : List Char) (c : Char) (cs : List Char) :
    timesIn word (c :: cs) = timesIn word cs + if word.isPrefixOf (c :: cs) then 1 else 0 := by
  rw [timesIn, List.tails_cons, List.countP_cons]
  rfl

/-- A word stands nowhere in front of its first character. -/
theorem timesIn_append {mark : Char} (name : List Char) {front : List Char}
    (absent : mark ∉ front) (back : List Char) :
    timesIn (mark :: name) (front ++ back) = timesIn (mark :: name) back := by
  induction front with
  | nil => rfl
  | cons c front ih =>
      have other : mark ≠ c := fun same => absent (by simp [same])
      have elsewhere : (mark :: name).isPrefixOf (c :: (front ++ back)) = false := by
        simp [List.isPrefixOf, other]
      rw [List.cons_append, timesIn_cons, elsewhere, ih fun inside => absent (.tail c inside)]
      rfl

/-- A word does not go on behind a character that it does not hold. -/
theorem isPrefixOf_append_cons {stop : Char} {word : List Char} (absent : stop ∉ word)
    (line rest : List Char) :
    word.isPrefixOf (line ++ stop :: rest) = word.isPrefixOf line := by
  induction word generalizing line with
  | nil => simp
  | cons d word ih =>
      obtain ⟨other, later⟩ := not_or.mp (List.mem_cons.not.mp absent)
      cases line with
      | nil =>
          have misses : (d == stop) = false := beq_false_of_ne (Ne.symm other)
          simp [List.isPrefixOf, misses]
      | cons c line => simp [List.isPrefixOf, ih later line]

/-- A word whose first character starts every line, and stands nowhere else, stands in the text as
often as lines start with it. -/
theorem timesIn_ofLines (mark : Char) (name : List Char) (unbroken : '\n' ∉ mark :: name)
    {lines : List (List Char)}
    (marked : ∀ line ∈ lines, ∃ body, line = mark :: body ∧ mark ∉ body) :
    timesIn (mark :: name) (ofLines lines) = lines.countP (mark :: name).isPrefixOf := by
  have feed : mark ≠ '\n' := fun same => unbroken (by simp [same])
  induction lines with
  | nil => simp [ofLines, timesIn]
  | cons line lines ih =>
      obtain ⟨⟨body, rfl, absent⟩, rest⟩ := List.forall_mem_cons.mp marked
      have behind : timesIn (mark :: name) (body ++ '\n' :: ofLines lines) =
          timesIn (mark :: name) (ofLines lines) := by
        rw [List.append_cons, timesIn_append name]
        simpa [feed] using absent
      rw [ofLines_cons, List.cons_append, timesIn_cons, behind, ih rest, ← List.cons_append,
        isPrefixOf_append_cons unbroken, List.countP_cons]

end Crochet.Text
