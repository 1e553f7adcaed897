/-
# Crochet.Proofs.Text.Pieces -- words, pieces and trimmed lines

`occurs` finds a word exactly where the text has it as an infix, and `pieces`
cuts a text the way `List.splitOn` does.  Cutting and trimming make no
characters: whatever a piece holds was in the text.  What trimming leaves is
`Trimmed`, and what it takes off are two margins of white space.
-/
import Crochet.Proofs.Text.Cuts
import Crochet.Text.Blank
import Crochet.Text.Pieces

set_option autoImplicit false

namespace Crochet.Text

theorem occurs_iff (word cs : List Char) : occurs word cs = true ↔ word <:+: cs := by
  induction cs with
  | nil => simp [occurs, List.isEmpty_iff]
  | cons c cs ih =>
      rw [occurs, Bool.or_eq_true, List.isPrefixOf_iff_prefix, ih, List.infix_cons_iff]

theorem modifyHead_nil_append (pieces : List (List Char)) :
    pieces.modifyHead ([] ++ ·) = pieces := by
  cases pieces <;> rfl

theorem piecesFrom_eq (sep : Char) (piece cs : List Char) :
    piecesFrom sep piece cs = (cs.splitOn sep).modifyHead (piece.reverse ++ ·) := by
  induction cs generalizing piece with
  | nil => simp [piecesFrom, List.splitOn_nil]
  | cons c cs ih =>
      simp only [piecesFrom, List.splitOn_cons_eq_if_modifyHead, beq_iff_eq]
      split
      · rw [ih, List.reverse_nil, modifyHead_nil_append]
        simp
      · rw [ih, List.modifyHead_modifyHead]
        congr 1
        funext head
        simp

theorem pieces_eq_splitOn (sep : Char) (cs : List Char) : pieces sep cs = cs.splitOn sep := by
  rw [pieces, piecesFrom_eq, List.reverse_nil, modifyHead_nil_append]

theorem pieces_nil (sep : Char) : pieces sep [] = [[]] := rfl

theorem pieces_cons (sep c : Char) (cs : List Char) :
    pieces sep (c :: cs) =
      if c = sep then [] :: pieces sep cs else (pieces sep cs).modifyHead (c :: ·) := by
  simp only [pieces_eq_splitOn, List.splitOn_cons_eq_if_modifyHead, beq_iff_eq]

/-- The first piece of a text that starts with a word goes on with what stands behind the word. -/
theorem pieces_append {sep : Char} {word : List Char} (apart : sep ∉ word) (rest : List Char) :
    pieces sep (word ++ rest) = (pieces sep rest).modifyHead (word ++ ·) := by
  induction word with
  | nil => exact (modifyHead_nil_append _).symm
  | cons d word ih =>
      have other : d ≠ sep := fun same => apart (by simp [same])
      rw [List.cons_append, pieces_cons, if_neg other, ih fun inside => apart (.tail d inside),
        List.modifyHead_modifyHead]
      rfl

theorem pieces_word {sep : Char} {word : List Char} (apart : sep ∉ word) :
    pieces sep word = [word] := by
  rw [pieces_eq_splitOn, List.splitOn_eq_singleton apart]

theorem pieces_append_sep (sep : Char) (front back : List Char) :
    pieces sep (front ++ sep :: back) = pieces sep front ++ pieces sep back := by
  rw [pieces_eq_splitOn, pieces_eq_splitOn, pieces_eq_splitOn, List.splitOn_append_cons_self]

/-- No piece holds the separator. -/
theorem not_mem_of_mem_pieces {sep : Char} {cs piece : List Char}
    (isPiece : piece ∈ pieces sep cs) : sep ∉ piece := by
  induction cs generalizing piece with
  | nil =>
      rw [pieces_nil, List.mem_singleton] at isPiece
      simp [isPiece]
  | cons c cs ih =>
      rw [pieces_cons] at isPiece
      split at isPiece
      · rcases List.mem_cons.mp isPiece with rfl | later
        · exact List.not_mem_nil
        · exact ih later
      · rename_i other
        cases rest : pieces sep cs with
        | nil => simp [rest] at isPiece
        | cons first others =>
            rw [rest] at ih
            rw [rest, List.modifyHead_cons] at isPiece
            rcases List.mem_cons.mp isPiece with rfl | later
            · intro inside
              rcases List.mem_cons.mp inside with same | inside
              · exact other same.symm
              · exact ih List.mem_cons_self inside
            · exact ih (List.mem_cons_of_mem first later)

/-- Pieces without the separator are found again when they are put together with it. -/
theorem pieces_intercalate {sep : Char} {pieces : List (List Char)} (some : pieces ≠ [])
    (apart : ∀ piece ∈ pieces, sep ∉ piece) :
    Text.pieces sep ([sep].intercalate pieces) = pieces := by
  rw [pieces_eq_splitOn]
  exact List.splitOn_intercalate sep apart some

theorem mem_of_mem_piecesFrom {sep c : Char} {piece cs line : List Char}
    (isPiece : line ∈ piecesFrom sep piece cs) (inside : c ∈ line) : c ∈ piece ∨ c ∈ cs := by
  induction cs generalizing piece with
  | nil =>
      obtain rfl : line = piece.reverse := by simpa [piecesFrom] using isPiece
      exact .inl (List.mem_reverse.mp inside)
  | cons d cs ih =>
      simp only [piecesFrom] at isPiece
      split at isPiece
      · rcases List.mem_cons.mp isPiece with rfl | later
        · exact .inl (List.mem_reverse.mp inside)
        · rcases ih later with old | new
          · cases old
          · exact .inr (List.mem_cons_of_mem d new)
      · rcases ih isPiece with old | new
        · rcases List.mem_cons.mp old with rfl | older
          · exact .inr List.mem_cons_self
          · exact .inl older
        · exact .inr (List.mem_cons_of_mem d new)

/-- What a piece holds was in the text. -/
theorem mem_of_mem_pieces {sep c : Char} {cs piece : List Char} (isPiece : piece ∈ pieces sep cs)
    (inside : c ∈ piece) : c ∈ cs := by
  rcases mem_of_mem_piecesFrom isPiece inside with old | new
  · cases old
  · exact new

/-- What a trimmed text holds was in the text. -/
theorem mem_of_mem_trim {c : Char} {cs : List Char} (inside : c ∈ trim cs) : c ∈ cs := by
  have early : c ∈ (trimStart cs).reverse :=
    List.dropWhile_subset isBlank (List.mem_reverse.mp inside)
  exact List.dropWhile_subset isBlank (List.mem_reverse.mp early)

/-! ## Trimming -/

/-- The text neither starts nor ends with white space. -/
structure Trimmed (cs : List Char) : Prop where
  front : Stops isBlank cs
  back : Stops isBlank cs.reverse

theorem trim_eq (cs : List Char) :
    trim cs = ((cs.dropWhile isBlank).reverse.dropWhile isBlank).reverse := rfl

theorem trim_of_blank {cs : List Char} (white : ∀ c ∈ cs, isBlank c = true) : trim cs = [] := by
  rw [trim_eq, List.dropWhile_eq_nil_iff.mpr white]
  rfl

/-- Margins are trimmed off, and nothing else is. -/
theorem trim_margins {before line after : List Char} (white : ∀ c ∈ before, isBlank c = true)
    (trimmed : Trimmed line) (white' : ∀ c ∈ after, isBlank c = true) :
    trim (before ++ line ++ after) = line := by
  by_cases nothing : line = []
  · subst nothing
    apply trim_of_blank
    intro c inside
    rw [List.append_nil] at inside
    exact (List.mem_append.mp inside).elim (white c) (white' c)
  · have start : Stops isBlank (line ++ after) := by
      obtain ⟨c, rest, rfl⟩ := List.exists_cons_of_ne_nil nothing
      exact stops_cons.mpr (stops_cons.mp trimmed.front)
    have turned : ∀ c ∈ after.reverse, isBlank c = true :=
      fun c inside => white' c (List.mem_reverse.mp inside)
    rw [trim_eq, List.append_assoc, dropWhile_run white start, List.reverse_append,
      dropWhile_run turned trimmed.back, List.reverse_reverse]

/-- Every text is a trimmed one between two margins. -/
theorem exists_margins (cs : List Char) :
    ∃ before line after, cs = before ++ line ++ after ∧ (∀ c ∈ before, isBlank c = true) ∧
      Trimmed line ∧ ∀ c ∈ after, isBlank c = true := by
  obtain ⟨before, rest, rfl, white, front⟩ := exists_cut isBlank cs
  obtain ⟨after, line, shape, white', back⟩ := exists_cut isBlank rest.reverse
  have whole : rest = line.reverse ++ after.reverse := by
    rw [← List.reverse_append, ← shape, List.reverse_reverse]
  subst whole
  refine ⟨before, line.reverse, after.reverse, ?_, white, ⟨?_, ?_⟩, ?_⟩
  · rw [List.append_assoc]
  · exact stops_of_append front
  · rwa [List.reverse_reverse]
  · exact fun c inside => white' c (List.mem_reverse.mp inside)

theorem trim_trimmed (cs : List Char) : Trimmed (trim cs) := by
  obtain ⟨before, line, after, rfl, white, trimmed, white'⟩ := exists_margins cs
  rwa [trim_margins white trimmed white']

end Crochet.Text
